import NominalScript.Proofs.Location
import NominalScript.Proofs.Parse.Writes
import NominalScript.Proofs.Print

/-!
# Spans are nested

The tokens of a text stand one behind the other and none is empty.  Each node of a
program that is read from the text covers some of them in a row, its parts cover some of
these in turn, and two parts of a node share none.  So the spans of the nodes are nested.

A span ends with the last token of its node.  The one node for which it does not is a
`return` without a value: its span runs over the trivia behind it to the end of its line.
-/

namespace NominalScript

/-! ## The order of tokens -/

/-- In reading order, and not the same. -/
def Location.StrictlyBefore (a b : Location) : Prop := a.before b = true ∧ a ≠ b

theorem Location.before_antisymm {a b : Location} (first : a.before b = true)
    (second : b.before a = true) : a = b := by
  rw [before_iff] at first second
  rw [Location.mk.injEq]
  omega

theorem Location.StrictlyBefore.trans_before {a b c : Location} (first : a.StrictlyBefore b)
    (second : b.before c = true) : a.StrictlyBefore c := by
  refine ⟨before_trans first.1 second, ?_⟩
  rintro rfl
  exact first.2 (before_antisymm first.1 second)

theorem Location.step_not_before (l : Location) (c : Char) : ¬ (l.step c).before l = true := by
  rw [before_iff]
  unfold Location.step
  split <;> simp

theorem Location.strictlyBefore_after (text : List Char) {more : List Char}
    (nonempty : more ≠ []) : (Location.after text).StrictlyBefore (.after (text ++ more)) := by
  refine ⟨after_before_append text more, fun same => ?_⟩
  cases more with
  | nil => exact nonempty rfl
  | cons c cs =>
    rw [← advance_after, advance_cons] at same
    have back := before_advance ((Location.after text).step c) cs
    rw [← same] at back
    exact step_not_before _ c back

/-- The tokens stand one behind the other, and none is empty. -/
structure Token.Ordered (tokens : List Token) : Prop where
  nonempty : ∀ t ∈ tokens, t.start.StrictlyBefore t.stop
  apart : tokens.Pairwise fun t u => t.stop.before u.start = true

/-- No token starts before the text in front of the tokens ends. -/
theorem Token.Tiled.before_start {before tail : List Char} {tokens : List Token}
    {lexemes : List (List Char)} (tiled : Token.Tiled before tokens lexemes tail) :
    ∀ t ∈ tokens, (Location.after before).before t.start = true := by
  induction tiled with
  | nil => exact nofun
  | @cons before _ x _ _ _ _ _ start _ _ ih =>
    refine List.forall_mem_cons.2 ⟨start ▸ Location.before_refl _, fun t mem => ?_⟩
    exact Location.before_trans (Location.after_before_append before x) (ih t mem)

theorem Token.Tiled.ordered {before tail : List Char} {tokens : List Token}
    {lexemes : List (List Char)} (tiled : Token.Tiled before tokens lexemes tail) :
    Token.Ordered tokens := by
  induction tiled with
  | nil => exact ⟨nofun, .nil⟩
  | cons writes _ start stop rest ih =>
    refine ⟨List.forall_mem_cons.2 ⟨?_, ih.nonempty⟩, .cons ?_ ih.apart⟩
    · rw [start, stop]
      exact Location.strictlyBefore_after _ (Lexeme.ne_nil_of_writes writes)
    · rw [stop]
      exact rest.before_start

namespace Token.Ordered

variable {tokens here : List Token} {t : Token}

theorem sublist (ordered : Ordered tokens) (sub : here.Sublist tokens) : Ordered here :=
  ⟨fun t mem => ordered.nonempty t (sub.subset mem), ordered.apart.sublist sub⟩

theorem start_before (ordered : Ordered tokens) (head : tokens.head? = some t) :
    ∀ u ∈ tokens, t.start.before u.start = true := by
  cases tokens with
  | nil => cases head
  | cons t' ts =>
    cases head
    refine List.forall_mem_cons.2 ⟨Location.before_refl _, fun u mem => ?_⟩
    exact Location.before_trans (ordered.nonempty t List.mem_cons_self).1
      (List.rel_of_pairwise_cons ordered.apart mem)

theorem before_stop (ordered : Ordered tokens) (last : tokens.getLast? = some t) :
    ∀ u ∈ tokens, u.stop.before t.stop = true := by
  obtain ⟨front, rfl⟩ := List.getLast?_eq_some_iff.1 last
  intro u mem
  obtain front | same := List.mem_append.1 mem
  · have apart := (List.pairwise_append.1 ordered.apart).2.2 u front t List.mem_cons_self
    have nonempty := ordered.nonempty t (List.mem_append_right _ List.mem_cons_self)
    exact Location.before_trans apart nonempty.1
  · rw [List.mem_singleton.1 same]
    exact Location.before_refl _

end Token.Ordered

/-! ## The order of spans -/

/-- The one span lies in the other. -/
def Span.Within : Span → Span → Prop
  | .source start stop, .source start' stop' =>
    start'.before start = true ∧ stop.before stop' = true
  | _, _ => False

/-- The one span ends before the other starts. -/
def Span.Precedes : Span → Span → Prop
  | .source _ stop, .source start _ => stop.before start = true
  | _, _ => False

namespace Syntax

open NominalScript.Syntax.Node

variable {n m : Node} {ns : List Node} {tokens here here' start stop there there' : List Token}

namespace Node

theorem Fits.precedes (fits : n.Fits here there) (fits' : m.Fits here' there')
    (later : here' <:+ there) (ordered : Token.Ordered here) : n.span.Precedes m.span := by
  obtain ⟨run, rfl, covers, _⟩ := fits.covers
  obtain ⟨run', rfl, covers', _⟩ := fits'.covers
  obtain ⟨_, last, _, last?, span, _⟩ := covers.ends
  obtain ⟨first, _, first?, _, span', _⟩ := covers'.ends
  rw [span, span']
  have behind : first ∈ there := later.subset (List.mem_append_left _ (List.mem_of_head? first?))
  exact (List.pairwise_append.1 ordered.apart).2.2 last (List.mem_of_getLast? last?) first behind

/-- The tokens of a node that fits between those of another are among these, so its span starts
no earlier and ends no later. -/
theorem Fits.within (fits : n.Fits here there) (fits' : m.Fits here' there')
    (inner : here' <:+ here) (before : there <:+ there') (ordered : Token.Ordered here) :
    m.span.Within n.span := by
  obtain ⟨run, rfl, covers, _⟩ := fits.covers
  obtain ⟨run', rfl, covers', _⟩ := fits'.covers
  obtain ⟨first, last, first?, last?, span, _⟩ := covers.ends
  obtain ⟨first', last', first'?, last'?, span', _⟩ := covers'.ends
  obtain ⟨between, rfl⟩ := before
  obtain ⟨front, split⟩ := inner
  have whole : run = front ++ (run' ++ between) := by
    have apart : run ++ there = front ++ (run' ++ between) ++ there := by
      rw [← split]
      simp
    exact List.append_cancel_right apart
  have inRun : ∀ t ∈ run', t ∈ run := by
    intro t mem
    rw [whole]
    simp [mem]
  have ordered := ordered.sublist (List.sublist_append_left run there)
  rw [span, span']
  exact ⟨ordered.start_before first? first' (inRun _ (List.mem_of_head? first'?)),
    ordered.before_stop last? last' (inRun _ (List.mem_of_getLast? last'?))⟩

theorem FitAll.fits_of_mem (fit : FitAll ns start stop) :
    ∀ n ∈ ns, ∃ here there, here <:+ start ∧ stop <:+ there ∧ n.Fits here there := by
  induction ns generalizing start with
  | nil => exact nofun
  | cons n ns ih =>
    cases fit with
    | @cons _ _ _ here there _ before fits rest =>
      refine List.forall_mem_cons.2 ⟨⟨here, there, before, rest.suffix, fits⟩, fun m mem => ?_⟩
      obtain ⟨here', there', later, upTo, fits'⟩ := ih rest m mem
      exact ⟨here', there', (later.trans fits.suffix).trans before, upTo, fits'⟩

theorem FitAll.pairwise_precedes (fit : FitAll ns start stop) (ordered : Token.Ordered start) :
    ns.Pairwise fun n m => n.span.Precedes m.span := by
  induction ns generalizing start with
  | nil => exact .nil
  | cons n ns ih =>
    cases fit with
    | cons before fits rest =>
      have ordered := ordered.sublist before.sublist
      refine .cons (fun m mem => ?_) (ih rest (ordered.sublist fits.suffix.sublist))
      obtain ⟨_, _, later, _, fits'⟩ := rest.fits_of_mem m mem
      exact fits.precedes fits' later ordered

mutual

/-- Every node within a node covers tokens of it. -/
theorem Fits.fits_of_mem_all : ∀ {n : Node} {here there : List Token}, n.Fits here there →
    ∀ m ∈ n.all, ∃ here' there', here' <:+ here ∧ m.Fits here' there'
  | .mk kinds span parts, here, there, fits => by
    rw [Node.all]
    refine List.forall_mem_cons.2 ⟨⟨here, there, List.suffix_rfl, fits⟩, ?_⟩
    obtain ⟨_, _, _, fit⟩ := fits.covers
    exact FitAll.fits_of_mem_allOf fit

theorem FitAll.fits_of_mem_allOf : ∀ {ns : List Node} {start stop : List Token},
    FitAll ns start stop → ∀ m ∈ Node.allOf ns, ∃ here there, here <:+ start ∧ m.Fits here there
  | [], _, _, _ => nofun
  | n :: ns, start, stop, .cons before fits rest => by
    rw [Node.allOf]
    refine List.forall_mem_append.2 ⟨fun m mem => ?_, fun m mem => ?_⟩
    · obtain ⟨here', there', inner, fits'⟩ := Fits.fits_of_mem_all fits m mem
      exact ⟨here', there', inner.trans before, fits'⟩
    · obtain ⟨here', there', later, fits'⟩ := FitAll.fits_of_mem_allOf rest m mem
      exact ⟨here', there', (later.trans fits.suffix).trans before, fits'⟩

end

/-! ## Nested nodes -/

/-- The span of a node goes from the start of a token that is no trivia to the end of a
token behind; the parts of the node lie in it, one after the other. -/
structure Nested (tokens : List Token) (n : Node) : Prop where
  span : ∃ start stop, n.span = .source start stop ∧ start.StrictlyBefore stop ∧
    (∃ t ∈ tokens, t.kind.isTrivia = false ∧ t.start = start) ∧ ∃ t ∈ tokens, t.stop = stop
  within : ∀ m ∈ n.parts, m.span.Within n.span
  apart : n.parts.Pairwise fun m m' => m.span.Precedes m'.span

/-- In tokens that stand in order, a node that fits is nested well: its parts lie in it, one
behind the other. -/
theorem Fits.nested (fits : n.Fits here there) (inside : here <:+ tokens)
    (ordered : Token.Ordered tokens) : n.Nested tokens := by
  have ordered := ordered.sublist inside.sublist
  obtain ⟨run, rfl, covers, fit⟩ := fits.covers
  refine ⟨?_, fun m mem => ?_, fit.pairwise_precedes ordered⟩
  · obtain ⟨first, last, first?, last?, span, opens, _⟩ := covers.ends
    have head := List.mem_append_left there (List.mem_of_head? first?)
    have end_ := List.mem_append_left there (List.mem_of_getLast? last?)
    refine ⟨_, _, span, ?_, ⟨first, inside.subset head, opens, rfl⟩, last, inside.subset end_, rfl⟩
    have ends := (ordered.sublist (List.sublist_append_left run there)).before_stop last?
    exact (ordered.nonempty first head).trans_before (ends first (List.mem_of_head? first?))
  · obtain ⟨here', there', inner, upTo, fits'⟩ := fit.fits_of_mem m mem
    exact fits.within fits' inner upTo ordered

end Node

/-! ## Programs -/

theorem Merged.perm {α : Type} {as bs cs : List α} (merged : Merged as bs cs) :
    (as ++ bs).Perm cs := by
  induction merged with
  | nil => exact .nil
  | left _ ih => exact ih.cons _
  | right _ ih => exact List.perm_middle.trans (ih.cons _)

theorem Program.InOrder.mem_nodes {p : Program} {order : List Node} (inOrder : p.InOrder order) :
    ∀ n ∈ p.nodes, n ∈ Node.allOf order := by
  intro n mem
  rw [Program.nodes, Node.allOf_eq_flatMap] at mem
  rw [Node.allOf_eq_flatMap]
  exact (inOrder.perm.flatMap_right Node.all).mem_iff.1 mem

theorem exists_of_map_eq_ok {ε α β : Type} {x : Except ε α} {f : α → β} {b : β}
    (mapped : x.map f = .ok b) : ∃ a, x = .ok a ∧ f a = b := by
  cases x with
  | error e => cases mapped
  | ok a => exact ⟨a, rfl, Except.ok.inj mapped⟩

/-- The spans of a program that is read from a text are nested: each node lies in the one
it is a part of, and the parts of a node, like the declarations of the program, stand one
behind the other. -/
theorem Program.nodes_nested {source : String} {p : Program}
    (read : Program.ofSource source = .ok p) :
    ∃ tokens order, Token.scan source = .ok tokens ∧ p.InOrder order ∧
      order.Pairwise (fun n m => n.span.Precedes m.span) ∧ (∀ n ∈ p.nodes, n.Nested tokens) ∧
      ∀ s ∈ p.spans, ∃ n ∈ p.nodes, n.span = s := by
  obtain ⟨tokens, scanned, parsed⟩ := Program.ofSource_eq_ok.1 read
  obtain ⟨lexemes, _, tiled⟩ := Token.tiled_of_scanFrom [] scanned
  obtain ⟨order, inOrder, fit⟩ := Program.fit_of_parse parsed
  have ordered := tiled.ordered
  refine ⟨tokens, order, scanned, inOrder, fit.pairwise_precedes ordered, ?_, ?_⟩
  · intro n mem
    obtain ⟨here, there, inside, fits⟩ := fit.fits_of_mem_allOf n (inOrder.mem_nodes n mem)
    exact fits.nested inside ordered
  · intro s mem
    exact List.mem_map.1 (p.spans_subset mem)

theorem nodes_nested_cramped :
    ∃ p, Program.ofSource cramped = .ok p ∧ p.nodes.length = 41 ∧
      ∃ tokens order, Token.scan cramped = .ok tokens ∧ p.InOrder order ∧
        order.Pairwise (fun n m => n.span.Precedes m.span) ∧ (∀ n ∈ p.nodes, n.Nested tokens) ∧
        ∀ s ∈ p.spans, ∃ n ∈ p.nodes, n.span = s := by
  have count : (Program.ofSource cramped).map (fun p => p.nodes.length) = .ok 41 := by
    decide +kernel
  obtain ⟨p, read, length⟩ := exists_of_map_eq_ok count
  exact ⟨p, read, length, Program.nodes_nested read⟩

/-- Every node of a program that is read from a text covers some of its tokens, and ends
with the last of these, which is no trivia unless the node is a `return` without a
value. -/
theorem Program.nodes_cover {source : String} {p : Program}
    (read : Program.ofSource source = .ok p) :
    ∃ tokens, Token.scan source = .ok tokens ∧
      (∀ n ∈ p.nodes, ∃ before run rest, tokens = before ++ run ++ rest ∧ n.Covers run rest) ∧
      ∀ s ∈ p.spans, ∃ n ∈ p.nodes, n.span = s := by
  obtain ⟨tokens, scanned, parsed⟩ := Program.ofSource_eq_ok.1 read
  obtain ⟨order, inOrder, fit⟩ := Program.fit_of_parse parsed
  refine ⟨tokens, scanned, ?_, fun s mem => List.mem_map.1 (p.spans_subset mem)⟩
  intro n mem
  obtain ⟨here, there, ⟨before, split⟩, fits⟩ := fit.fits_of_mem_allOf n (inOrder.mem_nodes n mem)
  obtain ⟨run, rfl, covers, _⟩ := fits.covers
  exact ⟨before, run, there, by rw [List.append_assoc, split], covers⟩

/-- A `return` without a value, and a comment behind it. -/
def trailing : String := "fn main() \x7b\n    return // done\n\x7d\n"

theorem nodes_cover_trailing :
    ∃ p, Program.ofSource trailing = .ok p ∧ p.nodes.length = 4 ∧
      ∃ tokens, Token.scan trailing = .ok tokens ∧
        (∀ n ∈ p.nodes, ∃ before run rest, tokens = before ++ run ++ rest ∧ n.Covers run rest) ∧
        ∀ s ∈ p.spans, ∃ n ∈ p.nodes, n.span = s := by
  have count : (Program.ofSource trailing).map (fun p => p.nodes.length) = .ok 4 := by
    decide +kernel
  obtain ⟨p, read, length⟩ := exists_of_map_eq_ok count
  exact ⟨p, read, length, Program.nodes_cover read⟩

/-- The span of that `return` ends with the comment, where no token ends that is no
trivia. -/
theorem trailing_return_span :
    ∃ tokens p, Token.scan trailing = .ok tokens ∧ Program.ofSource trailing = .ok p ∧
      .source ⟨2, 5⟩ ⟨2, 19⟩ ∈ p.spans ∧
      ∀ t ∈ tokens, t.kind.isTrivia = false → t.stop ≠ ⟨2, 19⟩ := by
  have spans : (Program.ofSource trailing).map
      (fun p => decide (.source ⟨2, 5⟩ ⟨2, 19⟩ ∈ p.spans)) = .ok true := by
    decide +kernel
  have stops : (Token.scan trailing).map (fun tokens => decide (∀ t ∈ tokens,
      t.kind.isTrivia = false → t.stop ≠ ⟨2, 19⟩)) = .ok true := by
    decide +kernel
  obtain ⟨p, read, listed⟩ := exists_of_map_eq_ok spans
  obtain ⟨tokens, scanned, apart⟩ := exists_of_map_eq_ok stops
  exact ⟨tokens, p, scanned, read, of_decide_eq_true listed, of_decide_eq_true apart⟩

end Syntax

end NominalScript
