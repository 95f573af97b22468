import NominalScript.Proofs.Parse.Success
import NominalScript.Proofs.Parse.Tree

/-!
# Reading what matters

`c.Reads kinds c'` says that between two cursors stand the given kinds, apart from
trivia and trailing commas.  What two parsers read one after the other is read by
their sequence, so what a parser reads is put together from what its steps read.
-/

namespace NominalScript

/-! ## Kinds that matter -/

/-- Is a token of the kind kept wherever it stands? -/
def Kind.matters : Kind → Bool
  | .blank _ => false
  | .comment _ => false
  | .comma => false
  | _ => true

theorem Kind.matters_of_closes {k : Kind} (closes : k.closes = true) : k.matters = true := by
  cases k <;> simp_all [Kind.closes, Kind.matters]

theorem meaningful_of_trivia {k : Kind} {ks : List Kind} (trivia : k.isTrivia = true) :
    meaningful (k :: ks) = meaningful ks := by
  simp [meaningful, trivia]

theorem meaningful_of_matters {k : Kind} {ks : List Kind} (matters : k.matters = true) :
    meaningful (k :: ks) = k :: meaningful ks := by
  have kept : k.isTrivia = false ∧ k ≠ .comma := by
    cases k <;> simp_all [Kind.matters, Kind.isTrivia]
  simp [meaningful, kept, dropTrailingCommas]

theorem meaningful_comma {ks : List Kind} :
    meaningful (.comma :: ks) =
      if ((ks.find? fun k => !k.isTrivia).map Kind.closes).getD false then meaningful ks
      else .comma :: meaningful ks := by
  have matters : Kind.comma.isTrivia = false := rfl
  simp [meaningful, matters, dropTrailingCommas, List.head?_filter]

namespace Syntax

variable {α : Type} {c c₁ c' : Cursor}

/-- The kinds start with one that is no closing parenthesis or brace. -/
def Opens (kinds : List Kind) : Prop := ∃ k ks, kinds = k :: ks ∧ k.closes = false

theorem Opens.append {ks : List Kind} (opens : Opens ks) (ks' : List Kind) :
    Opens (ks ++ ks') := by
  obtain ⟨k, ks, rfl, other⟩ := opens
  exact ⟨k, ks ++ ks', rfl, other⟩

namespace Cursor

/-- The kinds ahead that matter. -/
def ahead (c : Cursor) : List Kind := meaningful (c.rest.map Token.kind)

/-- Some tokens ahead are read, and these are the kinds of theirs that matter. -/
structure Reads (c : Cursor) (kinds : List Kind) (c' : Cursor) : Prop where
  ahead : c.ahead = kinds ++ c'.ahead
  suffix : c'.rest <:+ c.rest

namespace Reads

theorem refl (c : Cursor) : c.Reads [] c := ⟨rfl, List.suffix_rfl⟩

theorem trans {ks ks' : List Kind} (first : c.Reads ks c₁) (then_ : c₁.Reads ks' c') :
    c.Reads (ks ++ ks') c' where
  ahead := by rw [first.ahead, then_.ahead, List.append_assoc]
  suffix := then_.suffix.trans first.suffix

/-- What matters takes up a token. -/
theorem length_lt {k : Kind} {ks : List Kind} (reads : c.Reads (k :: ks) c') :
    c'.rest.length < c.rest.length := by
  refine Nat.lt_of_le_of_ne reads.suffix.length_le ?_
  intro same
  have unmoved : c'.rest = c.rest := reads.suffix.eq_of_length same
  have kinds := reads.ahead
  rw [Cursor.ahead, Cursor.ahead, unmoved] at kinds
  have sizes := congrArg List.length kinds
  simp at sizes
  omega

end Reads

/-! ## Steps -/

/-- Passing over trivia reads nothing that matters. -/
theorem reads_afterRun {p : Kind → Bool} (trivia : ∀ k, p k = true → k.isTrivia = true)
    (tokens : List Token) (lastEnd : Location) :
    Reads ⟨tokens, lastEnd⟩ [] (afterRun p tokens lastEnd) := by
  induction tokens generalizing lastEnd with
  | nil => exact .refl _
  | cons t rest ih =>
    cases run : p t.kind with
    | false =>
      rw [afterRun, run]
      exact .refl _
    | true =>
      have later := ih t.stop
      rw [afterRun, run, if_pos rfl]
      refine ⟨?_, later.suffix.trans (List.suffix_cons t rest)⟩
      rw [← later.ahead]
      exact meaningful_of_trivia (trivia _ run)

theorem reads_pastTrivia (c : Cursor) : c.Reads [] c.pastTrivia :=
  reads_afterRun (fun _ trivia => trivia) c.rest c.lastEnd

theorem reads_toLineEnd (c : Cursor) :
    c.Reads [] (c.skipWhile fun k => k.isTrivia && k != .blank .newline) :=
  reads_afterRun (fun _ both => (Bool.and_eq_true_iff.1 both).1) c.rest c.lastEnd

theorem Takes.suffix {t : Token} (takes : c.Takes t c') : c'.rest <:+ c.rest := by
  rw [takes.rest]
  exact List.suffix_cons t c'.rest

theorem Takes.reads {t : Token} {k : Kind} (takes : c.Takes t c') (kind : t.kind = k)
    (matters : k.matters = true) : c.Reads [k] c' := by
  subst kind
  refine ⟨?_, takes.suffix⟩
  rw [Cursor.ahead, takes.rest, List.map_cons, meaningful_of_matters matters]
  rfl

theorem ahead_of_closes {k : Kind} (closes : k.closes = true) (next : c.kind? = some k) :
    ∃ ks, c.ahead = k :: ks := by
  obtain ⟨t, c', rfl, takes⟩ := exists_takes next
  rw [Cursor.ahead, takes.rest, List.map_cons,
    meaningful_of_matters (Kind.matters_of_closes closes)]
  exact ⟨_, rfl⟩

theorem find?_kinds (c : Cursor) :
    ((c.rest.map Token.kind).find? fun k => !k.isTrivia) = c.pastTrivia.kind? := by
  rw [kind?_pastTrivia, kindPastTrivia?, List.find?_map]
  rfl

/-- A comma before a closing token does not matter. -/
theorem Takes.reads_trailing {t : Token} {k : Kind} (takes : c.Takes t c')
    (comma : t.kind = .comma) (closes : k.closes = true) (next : c'.pastTrivia.kind? = some k) :
    c.Reads [] c' := by
  refine ⟨?_, takes.suffix⟩
  rw [Cursor.ahead, takes.rest, List.map_cons, comma, meaningful_comma, find?_kinds, next]
  simp [closes, Cursor.ahead]

/-- A comma before anything else does. -/
theorem Takes.reads_comma {t : Token} {ks : List Kind} (takes : c.Takes t c₁)
    (comma : t.kind = .comma) (opens : Opens ks) (next : c₁.Reads ks c') :
    c.Reads [.comma] c₁ := by
  obtain ⟨k, ks, rfl, opens⟩ := opens
  refine ⟨?_, takes.suffix⟩
  rw [Cursor.ahead, takes.rest, List.map_cons, comma, meaningful_comma, find?_kinds]
  refine if_neg ?_
  intro closing
  cases follows : c₁.pastTrivia.kind? with
  | none => simp [follows] at closing
  | some k' =>
    -- The closing token would be the first of those ahead.
    have closes : k'.closes = true := by simpa [follows] using closing
    obtain ⟨ks', first⟩ := ahead_of_closes closes follows
    have same := (reads_pastTrivia c₁).ahead
    rw [next.ahead, first] at same
    cases same
    simp [opens] at closes

end Cursor

/-! ## Lists with commas -/

theorem commas_singleton (ks : List Kind) : commas [ks] = ks := by
  simp [commas, List.intercalate]

theorem commas_cons_cons (ks ks' : List Kind) (rest : List (List Kind)) :
    commas (ks :: ks' :: rest) = ks ++ [.comma] ++ commas (ks' :: rest) := by
  simp [commas, List.intercalate, List.intersperse]

theorem opens_commas {ks : List Kind} (opens : Opens ks) (rest : List (List Kind)) :
    Opens (commas (ks :: rest)) := by
  cases rest with
  | nil => rwa [commas_singleton]
  | cons ks' rest =>
    rw [commas_cons_cons, List.append_assoc]
    exact opens.append _

namespace Parser

section

variable {item : Parser α} {kinds : α → List Kind} {opening close : Kind} {as : List α}

theorem eq_of_items_nil {rounds : Nat} (read : items close item rounds c = .ok ([], c')) :
    c = c' := by
  cases rounds with
  | zero => exact (pure_eq_ok.1 read).2
  | succ rounds =>
    obtain ⟨_, _, same⟩ | ⟨_, a, c₁, _, ⟨_, one, _⟩ | ⟨_, _, _, _, _, _, more⟩⟩ :=
      items_succ_eq_ok.1 read
    · exact same
    · cases one
    · cases more

/-- Whatever a successful read of an item says holds of all items. -/
theorem forall_of_items {P : α → Prop} {rounds : Nat}
    (read : items close item rounds c = .ok (as, c'))
    (holds : ∀ {c a c'}, item c = .ok (a, c') → P a) : ∀ a ∈ as, P a := by
  induction rounds generalizing c as with
  | zero =>
    obtain ⟨rfl, _⟩ := pure_eq_ok.1 read
    exact nofun
  | succ rounds ih =>
    obtain ⟨_, rfl, _⟩ | ⟨_, a, c₁, first, ⟨_, rfl, _⟩ | ⟨_, _, rest, _, _, later, rfl⟩⟩ :=
      items_succ_eq_ok.1 read
    · exact nofun
    · exact List.forall_mem_cons.2 ⟨holds first, nofun⟩
    · exact List.forall_mem_cons.2 ⟨holds first, ih later⟩

/-- Items up to a closing token are read with the commas between them: a comma behind
the last of them stands right before the closing token. -/
theorem items_reads {rounds : Nat} (read : items close item rounds c = .ok (as, c'))
    (closing : c'.kind? = some close) (closes : close.closes = true)
    (opens : ∀ a, Opens (kinds a))
    (each : ∀ {c a c'}, item c = .ok (a, c') → c.Reads (kinds a) c') :
    c.Reads (commas (as.map kinds)) c' := by
  induction rounds generalizing c as with
  | zero =>
    obtain ⟨rfl, rfl⟩ := pure_eq_ok.1 read
    exact .refl c
  | succ rounds ih =>
    obtain ⟨_, rfl, rfl⟩ | ⟨_, a, c₁, first, last⟩ := items_succ_eq_ok.1 read
    · exact .refl c
    have upTo : c.Reads (kinds a ++ []) c₁.pastTrivia := (each first).trans c₁.reads_pastTrivia
    rw [List.append_nil] at upTo
    obtain ⟨_, rfl, rfl⟩ | ⟨t, c₂, rest, isComma, takes, later, rfl⟩ := last
    · rw [List.map_singleton, commas_singleton]
      exact upTo
    have laterReads := ih later
    cases rest with
    | nil =>
      cases eq_of_items_nil later
      have dropped := takes.reads_trailing isComma closes closing
      rw [List.map_singleton, commas_singleton]
      simpa using (upTo.trans dropped).trans c₂.reads_pastTrivia
    | cons a' rest =>
      have next := c₂.reads_pastTrivia.trans laterReads
      have kept := takes.reads_comma isComma (opens_commas (opens a') _) next
      rw [List.map_cons, List.map_cons, commas_cons_cons, ← List.map_cons]
      exact (upTo.trans kept).trans next

theorem delimited_reads (read : delimited opening close item c = .ok (as, c'))
    (matters : opening.matters = true) (closes : close.closes = true)
    (opens : ∀ a, Opens (kinds a))
    (each : ∀ {c a c'}, item c = .ok (a, c') → c.Reads (kinds a) c') :
    c.Reads (opening :: (commas (as.map kinds) ++ [close])) c' := by
  obtain ⟨t, c₁, c₂, t', isOpening, opened, inside, isClose, closed⟩ := delimited_eq_ok.1 read
  have closing : c₂.kind? = some close := closed.kind?.trans (congrArg some isClose)
  have start := (opened.reads isOpening matters).trans c₁.reads_pastTrivia
  have middle := start.trans (items_reads inside closing closes opens each)
  simpa using middle.trans (closed.reads isClose (Kind.matters_of_closes closes))

theorem forall_of_delimited {P : α → Prop}
    (read : delimited opening close item c = .ok (as, c'))
    (holds : ∀ {c a c'}, item c = .ok (a, c') → P a) : ∀ a ∈ as, P a := by
  obtain ⟨_, _, _, _, _, _, inside, _⟩ := delimited_eq_ok.1 read
  exact forall_of_items inside holds

end

end Parser

end Syntax

end NominalScript
