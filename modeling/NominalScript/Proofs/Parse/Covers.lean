import NominalScript.Proofs.Parse
import NominalScript.Proofs.Syntax.Nodes

/-!
# The tokens of a node

A place between two tokens of a text is known by the tokens that come after it.
`n.Fits from_ to` says that the tokens between two such places are exactly those of a
node: its span goes from the first to the last of them, neither of which is trivia, they
are of its kinds, and the tokens of its parts lie among them in order.

There is one exception.  A `return` without a value is read with the trivia behind it up
to the end of the line, and its span is closed only then (`Node.EndsLine`).

`c.Writes n c'` says that a node fits between two cursors of a parser, and that the last
token read is a token of the node, so that a span that is closed at the second cursor
ends with that token.
-/

namespace NominalScript

/-! ## Kinds of a stretch -/

theorem Kind.matters_or (k : Kind) : k.matters = true ∨ k.isTrivia = true ∨ k = .comma := by
  cases k <;> simp [Kind.matters, Kind.isTrivia]

theorem Kind.isTrivia_of_matters {k : Kind} (matters : k.matters = true) : k.isTrivia = false := by
  cases k <;> simp_all [Kind.matters, Kind.isTrivia]

/-- A token that matters keeps what is before it apart from what is behind it. -/
theorem meaningful_append {ks ks' : List Kind} {k : Kind} (last : ks.getLast? = some k)
    (matters : k.matters = true) : meaningful (ks ++ ks') = meaningful ks ++ meaningful ks' := by
  induction ks with
  | nil => cases last
  | cons a ks ih =>
    cases ks with
    | nil =>
      have same : a = k := by simpa using last
      rw [← same] at matters
      rw [List.singleton_append, meaningful_of_matters matters, meaningful_of_matters matters]
      rfl
    | cons b ks =>
      have last : (b :: ks).getLast? = some k := by simpa using last
      have rest := ih last
      rcases a.matters_or with kept | trivia | rfl
      · rw [List.cons_append, meaningful_of_matters kept, meaningful_of_matters kept, rest,
          List.cons_append]
      · rw [List.cons_append, meaningful_of_trivia trivia, meaningful_of_trivia trivia, rest]
      · -- What decides about the comma is no further away than the last token.
        have some_ : ((b :: ks).find? fun k => !k.isTrivia).isSome := List.find?_isSome.2
          ⟨k, List.mem_of_getLast? last, by simp [Kind.isTrivia_of_matters matters]⟩
        obtain ⟨k', found⟩ := Option.isSome_iff_exists.1 some_
        rw [List.cons_append, meaningful_comma, meaningful_comma, List.find?_append, found, rest]
        cases closing : k'.closes <;> simp [closing]

theorem meaningful_eq_nil {ks : List Kind} (trivia : ∀ k ∈ ks, k.isTrivia = true) :
    meaningful ks = [] := by
  induction ks with
  | nil => rfl
  | cons k ks ih =>
    obtain ⟨first, rest⟩ := List.forall_mem_cons.1 trivia
    rw [meaningful_of_trivia first, ih rest]

namespace Syntax

/-! ## Nodes and their tokens -/

/-- The node is a `return` without a value, and the tokens are that `return` and all
trivia behind it on its line. -/
structure Node.EndsLine (n : Node) (run rest : List Token) : Prop where
  kinds : n.kinds = [.keyword .kwReturn]
  run : ∃ t trivia, run = t :: trivia ∧ t.kind = .keyword .kwReturn ∧
    ∀ u ∈ trivia, u.kind.isTrivia = true ∧ u.kind ≠ .blank .newline
  rest : ∀ u ∈ rest.head?, u.kind = .rightBrace ∨ u.kind = .blank .newline

/-- The tokens of `run`, which come before those of `rest`, are those of the node. -/
structure Node.Covers (n : Node) (run rest : List Token) : Prop where
  kinds : meaningful (run.map Token.kind) = n.kinds
  ends : ∃ first last, run.head? = some first ∧ run.getLast? = some last ∧
    n.span = first.start.until last.stop ∧ first.kind.isTrivia = false ∧
    (last.kind.isTrivia = false ∨ n.EndsLine run rest)

mutual

/-- The tokens between two places are those of the node, and its parts lie among them. -/
inductive Node.Fits : Node → List Token → List Token → Prop
  | mk {kinds : List Kind} {span : Span} {parts : List Node} {run rest : List Token} :
    (Node.mk kinds span parts).Covers run rest → Node.FitAll parts (run ++ rest) rest →
    Node.Fits (.mk kinds span parts) (run ++ rest) rest

/-- The tokens of the nodes lie between two places, one node after the other. -/
inductive Node.FitAll : List Node → List Token → List Token → Prop
  | nil {start stop : List Token} : stop <:+ start → Node.FitAll [] start stop
  | cons {n : Node} {ns : List Node} {start here there stop : List Token} :
    here <:+ start → Node.Fits n here there → Node.FitAll ns there stop →
    Node.FitAll (n :: ns) start stop

end

namespace Node

variable {n : Node} {ns ms : List Node} {start here there stop : List Token}

theorem Fits.covers (fits : n.Fits here there) :
    ∃ run, here = run ++ there ∧ n.Covers run there ∧ FitAll n.parts here there := by
  cases fits with
  | mk covers parts => exact ⟨_, rfl, covers, parts⟩

theorem Fits.suffix (fits : n.Fits here there) : there <:+ here := by
  obtain ⟨run, rfl, _⟩ := fits.covers
  exact List.suffix_append run there

theorem FitAll.suffix (fit : FitAll ns start stop) : stop <:+ start := by
  induction ns generalizing start with
  | nil =>
    cases fit with
    | nil suffix => exact suffix
  | cons n ns ih =>
    cases fit with
    | cons before fits rest => exact ((ih rest).trans fits.suffix).trans before

/-- Nodes fit between places that are further apart. -/
theorem FitAll.after (fit : FitAll ns here stop) (suffix : here <:+ start) :
    FitAll ns start stop := by
  cases fit with
  | nil end_ => exact .nil (end_.trans suffix)
  | cons before fits rest => exact .cons (before.trans suffix) fits rest

theorem FitAll.append (first : FitAll ns start here) (second : FitAll ms here stop) :
    FitAll (ns ++ ms) start stop := by
  induction ns generalizing start with
  | nil => exact second.after first.suffix
  | cons n ns ih =>
    cases first with
    | cons before fits rest => exact .cons before fits (ih rest)

theorem FitAll.before (fit : FitAll ns start here) (suffix : stop <:+ here) :
    FitAll ns start stop := by
  have longer := fit.append (.nil suffix)
  rwa [List.append_nil] at longer

theorem Fits.one (fits : n.Fits here there) : FitAll [n] here there :=
  .cons List.suffix_rfl fits (.nil List.suffix_rfl)

end Node

/-- A node may be a part of another that has the same tokens. -/
theorem Node.Fits.wrap {n : Node} {here there : List Token} (fits : n.Fits here there) :
    (Node.mk n.kinds n.span [n]).Fits here there := by
  obtain ⟨run, rfl, covers, _⟩ := fits.covers
  refine .mk ⟨covers.kinds, ?_⟩ fits.one
  obtain ⟨first, last, head, last?, span, opens, ends⟩ := covers.ends
  refine ⟨first, last, head, last?, span, opens, ends.imp_right ?_⟩
  exact fun ends => ⟨ends.kinds, ends.run, ends.rest⟩

/-! ## Nodes between two cursors -/

variable {c c₁ c' : Cursor} {t : Token}

namespace Cursor

/-- Some tokens ahead are read, and the last of them matters. -/
def EndsAt (c c' : Cursor) : Prop :=
  ∃ run last, c.rest = run ++ c'.rest ∧ run.getLast? = some last ∧ last.kind.matters = true ∧
    c'.lastEnd = last.stop

/-- The tokens of a node are read, and the last token read is one of them. -/
structure Writes (c : Cursor) (n : Node) (c' : Cursor) : Prop where
  fits : n.Fits c.rest c'.rest
  ends : c.EndsAt c'

theorem Takes.endsAt (takes : c.Takes t c') (matters : t.kind.matters = true) : c.EndsAt c' :=
  ⟨[t], t, takes.rest, rfl, matters, takes.lastEnd⟩

theorem EndsAt.after (ends : c₁.EndsAt c') (suffix : c₁.rest <:+ c.rest) : c.EndsAt c' := by
  obtain ⟨run, last, split, last?, matters, lastEnd⟩ := ends
  obtain ⟨before, rest⟩ := suffix
  refine ⟨before ++ run, last, by rw [← rest, split, List.append_assoc], ?_, matters, lastEnd⟩
  rw [List.getLast?_append, last?, Option.some_or]

/-- What may be left out does not change which token is the last if it is. -/
theorem EndsAt.orAt (ends : c.EndsAt c₁) (later : c₁ = c' ∨ c₁.EndsAt c') : c.EndsAt c' := by
  obtain rfl | later := later
  · exact ends
  · obtain ⟨run, _, split, _⟩ := ends
    exact later.after (split ▸ List.suffix_append run c₁.rest)

/-- Up to a token that matters, what the kinds ahead tell is what was read. -/
theorem ahead_of_last {run : List Token} {last : Token} (split : c.rest = run ++ c'.rest)
    (last? : run.getLast? = some last) (matters : last.kind.matters = true) :
    c.ahead = meaningful (run.map Token.kind) ++ c'.ahead := by
  rw [ahead, split, List.map_append]
  exact meaningful_append (by rw [List.getLast?_map, last?, Option.map_some]) matters

theorem Writes.reads {n : Node} (writes : c.Writes n c') : c.Reads n.kinds c' := by
  obtain ⟨run, here, covers, _⟩ := writes.fits.covers
  obtain ⟨run', last, split, last?, matters, _⟩ := writes.ends
  cases List.append_cancel_right (here.symm.trans split)
  exact ⟨covers.kinds ▸ ahead_of_last split last? matters, writes.fits.suffix⟩

/-- What is read is a node of the kinds read if its first and last token matter. -/
theorem Takes.writes {k : Kind} {kinds : List Kind} {parts : List Node} (takes : c.Takes t c₁)
    (kind : t.kind = k) (opens : k.matters = true) (reads : c.Reads kinds c') (ends : c.EndsAt c')
    (fit : Node.FitAll parts c.rest c'.rest) :
    c.Writes (.mk kinds (t.start.until c'.lastEnd) parts) c' := by
  refine ⟨?_, ends⟩
  obtain ⟨run, last, split, last?, matters, lastEnd⟩ := ends
  have same := (ahead_of_last split last? matters).symm.trans reads.ahead
  have head : run.head? = some t := by
    cases run with
    | nil => cases last?
    | cons u run => exact congrArg some (List.cons.inj (split.symm.trans takes.rest)).1
  rw [split] at fit ⊢
  refine .mk ⟨List.append_cancel_right same, ?_⟩ fit
  exact ⟨t, last, head, last?, congrArg t.start.until lastEnd,
    Kind.isTrivia_of_matters (kind ▸ opens), .inl (Kind.isTrivia_of_matters matters)⟩

/-- A token that matters is a node without parts. -/
theorem Takes.writes_leaf {k : Kind} (takes : c.Takes t c') (kind : t.kind = k)
    (matters : k.matters = true) : c.Writes (.leaf k t.span) c' := by
  have writes := takes.writes kind matters (takes.reads kind matters)
    (takes.endsAt (kind ▸ matters)) (.nil takes.suffix)
  rwa [takes.lastEnd] at writes

theorem Takes.writes_ident {i : Ident} (takes : c.Takes t c') (kind : t.kind = .ident i.name)
    (span : i.span = t.span) : c.Writes i.node c' := by
  rw [Ident.node, span]
  exact takes.writes_leaf kind rfl

end Cursor

end Syntax

end NominalScript
