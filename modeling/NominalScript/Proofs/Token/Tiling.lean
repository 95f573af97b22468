import NominalScript.Proofs.Token.Lexeme
import NominalScript.Token.Scan

/-!
# Tokens tile the text

The tokens of a text are its lexemes one after the other: nothing stands between two of
them, each is the token that its lexeme writes, as long as it can be, and each stands at
the location of its first character.  When the cutting stops, the tokens up to there
tile what is before the lexeme that cannot be completed.
-/

namespace NominalScript

/-! ## Locations -/

/-- The location behind a text: one line for each line feed, and one column for each
character since the last of them. -/
def Location.after (text : List Char) : Location :=
  ⟨1 + text.count '\n', 1 + (text.reverse.takeWhile (· ≠ '\n')).length⟩

/-- Walking over a text ends behind it. -/
theorem Location.advance_origin (text : List Char) :
    Location.origin.advance text = Location.after text := by
  rw [← Location.plus_sizeOf]
  unfold Location.plus
  by_cases oneLine : (Size.of text).lines ≤ 1
  · have noBreak : text.count '\n' = 0 := Nat.le_zero.1 (Nat.le_of_succ_le_succ oneLine)
    simp [Location.origin, Location.after, Size.of, noBreak]
  · rw [if_neg oneLine]
    simp only [Location.origin, Location.after, Size.of, Location.mk.injEq]
    omega

theorem Location.advance_after (before text : List Char) :
    (Location.after before).advance text = Location.after (before ++ text) := by
  rw [← Location.advance_origin, ← Location.advance_origin, Location.advance_append]

/-! ## Tilings -/

/-- The tokens are written as the lexemes, each as long as it can be before the text
that follows, and each at the place of its lexeme.  `tail` is what stands behind the
last of them. -/
structure Token.Tiling (tokens : List Token) (lexemes : List (List Char)) (tail : List Char) :
    Prop where
  length : lexemes.length = tokens.length
  nonempty : ∀ x ∈ lexemes, x ≠ []
  writes : ∀ (i : Nat) (t : Token) (x : List Char), tokens[i]? = some t → lexemes[i]? = some x →
    t.kind.Writes x
  maximal : ∀ (i : Nat) (t : Token), tokens[i]? = some t →
    t.kind.EndsBefore ((lexemes.drop (i + 1)).flatten ++ tail)
  start : ∀ (i : Nat) (t : Token), tokens[i]? = some t → t.start = .after (lexemes.take i).flatten
  stop : ∀ (i : Nat) (t : Token), tokens[i]? = some t →
    t.stop = .after (lexemes.take (i + 1)).flatten

/-- The same, token by token, with the text in front of the first of them. -/
inductive Token.Tiled : List Char → List Token → List (List Char) → List Char → Prop
  | nil {before tail : List Char} : Tiled before [] [] tail
  | cons {before tail x : List Char} {t : Token} {ts : List Token} {xs : List (List Char)} :
    t.kind.Writes x → t.kind.EndsBefore (xs.flatten ++ tail) → t.start = .after before →
    t.stop = .after (before ++ x) → Tiled (before ++ x) ts xs tail →
    Tiled before (t :: ts) (x :: xs) tail

namespace Token.Tiled

variable {before tail : List Char} {tokens : List Token} {lexemes : List (List Char)}

theorem length_eq (tiled : Tiled before tokens lexemes tail) : lexemes.length = tokens.length := by
  induction tiled with
  | nil => rfl
  | cons _ _ _ _ _ ih => simp [ih]

theorem nonempty (tiled : Tiled before tokens lexemes tail) : ∀ x ∈ lexemes, x ≠ [] := by
  induction tiled with
  | nil => exact nofun
  | cons writes _ _ _ _ ih =>
    exact List.forall_mem_cons.2 ⟨Lexeme.ne_nil_of_writes writes, ih⟩

/-- What is said of each token, by its number. -/
theorem getElem? (tiled : Tiled before tokens lexemes tail) {i : Nat} {t : Token}
    (entry : tokens[i]? = some t) :
    ∃ x, lexemes[i]? = some x ∧ t.kind.Writes x ∧
      t.kind.EndsBefore ((lexemes.drop (i + 1)).flatten ++ tail) ∧
      t.start = .after (before ++ (lexemes.take i).flatten) ∧
      t.stop = .after (before ++ (lexemes.take (i + 1)).flatten) := by
  induction tiled generalizing i with
  | nil => simp at entry
  | cons writes ends start stop _ ih =>
    cases i with
    | zero =>
      cases entry
      exact ⟨_, rfl, writes, by simpa using ends, by simpa using start, by simpa using stop⟩
    | succ i =>
      obtain ⟨x, lexeme, writes, ends, start, stop⟩ := ih (by simpa using entry)
      refine ⟨x, by simpa using lexeme, writes, by simpa using ends, ?_, ?_⟩
      · simpa using start
      · simpa using stop

/-- What is said along the tokens, from the text in front of each, says the same of every token
by its number. -/
theorem tiling (tiled : Tiled [] tokens lexemes tail) : Tiling tokens lexemes tail where
  length := tiled.length_eq
  nonempty := tiled.nonempty
  writes i t x entry lexeme := by
    obtain ⟨x', lexeme', writes, _⟩ := tiled.getElem? entry
    rw [lexeme] at lexeme'
    cases lexeme'
    exact writes
  maximal i t entry := by
    obtain ⟨_, _, _, ends, _⟩ := tiled.getElem? entry
    exact ends
  start i t entry := by
    obtain ⟨_, _, _, _, start, _⟩ := tiled.getElem? entry
    exact start
  stop i t entry := by
    obtain ⟨_, _, _, _, _, stop⟩ := tiled.getElem? entry
    exact stop

end Token.Tiled

/-! ## Cutting a text -/

/-- A token that is cut off stands where its lexeme does. -/
theorem Token.stop_cut {before text : List Char} {k : Kind} :
    (Token.mk k (.after before) (Size.of text)).stop = .after (before ++ text) := by
  rw [Token.stop, Location.plus_sizeOf, Location.advance_after]

/-- The tokens that are cut off a text tile it. -/
theorem Token.tiled_of_scanFrom (before : List Char) {cs : List Char} {tokens : List Token}
    (scanned : Token.scanFrom (.after before) cs = .ok tokens) :
    ∃ lexemes, lexemes.flatten = cs ∧ Token.Tiled before tokens lexemes [] := by
  generalize here : Location.after before = l at scanned
  fun_induction Token.scanFrom l cs generalizing before tokens with
  | case1 =>
    cases scanned
    exact ⟨[], rfl, .nil⟩
  | case2 => cases scanned
  | case3 => cases scanned
  | case4 l c cs x cut ts later ih =>
    cases scanned
    subst here
    obtain ⟨lexemes, flat, tiled⟩ := ih _ (Location.advance_after before x.text).symm later
    obtain ⟨writes, ends⟩ := Lexeme.writes_of_first cut
    refine ⟨x.text :: lexemes, by rw [List.flatten_cons, flat, x.split], ?_⟩
    refine .cons writes ?_ rfl Token.stop_cut tiled
    rwa [List.append_nil, flat]

/-- Where the cutting stops, the tokens up to there tile the text before. -/
theorem Token.tiled_of_scanFrom_error (before : List Char) {cs : List Char} {e : LexError}
    (failed : Token.scanFrom (.after before) cs = .error e) :
    ∃ tokens lexemes rest skipped, lexemes.flatten ++ rest = cs ∧
      Token.Tiled before tokens lexemes rest ∧ e.fault.Found rest skipped ∧ Text.Unwritten rest ∧
      e.location = .after (before ++ lexemes.flatten ++ skipped) := by
  generalize here : Location.after before = l at failed
  fun_induction Token.scanFrom l cs generalizing before with
  | case1 => cases failed
  | case2 l c cs f stopped =>
    cases failed
    subst here
    refine ⟨[], [], c :: cs, f.skipped, rfl, .nil, Lexeme.found_of_first stopped,
      Lexeme.unwritten_of_first stopped, ?_⟩
    simp [Location.advance_after]
  | case3 l c cs x cut e' later ih =>
    cases failed
    subst here
    obtain ⟨tokens, lexemes, rest, skipped, flat, tiled, found, unwritten, location⟩ :=
      ih _ (Location.advance_after before x.text).symm later
    obtain ⟨writes, ends⟩ := Lexeme.writes_of_first cut
    refine ⟨⟨x.kind, .after before, Size.of x.text⟩ :: tokens, x.text :: lexemes, rest, skipped,
      ?_, ?_, found, unwritten, ?_⟩
    · rw [List.flatten_cons, List.append_assoc, flat, x.split]
    · refine .cons writes ?_ rfl Token.stop_cut tiled
      rwa [flat]
    · simpa using location
  | case4 => cases failed

/-- Either the tokens of a text tile it, or some tokens tile it up to a lexeme that
cannot be completed: the error stands at the first character of that lexeme, or at the
backslash of the escape that is invalid. -/
theorem Token.scan_tiles (source : String) :
    match Token.scan source with
    | .ok tokens => ∃ lexemes, lexemes.flatten = source.toList ∧ Token.Tiling tokens lexemes [] ∧
        ∀ (i : Nat) (t next : Token), tokens[i]? = some t → tokens[i + 1]? = some next →
          t.stop = next.start
    | .error e => ∃ tokens lexemes rest skipped, lexemes.flatten ++ rest = source.toList ∧
        Token.Tiling tokens lexemes rest ∧ e.fault.Found rest skipped ∧ Text.Unwritten rest ∧
        e.location = .after (lexemes.flatten ++ skipped) := by
  cases scanned : Token.scan source with
  | ok tokens =>
    obtain ⟨lexemes, flat, tiled⟩ := Token.tiled_of_scanFrom [] scanned
    have tiling := tiled.tiling
    refine ⟨lexemes, flat, tiling, ?_⟩
    intro i t next here there
    rw [tiling.stop i t here, tiling.start (i + 1) next there]
  | error e =>
    obtain ⟨tokens, lexemes, rest, skipped, flat, tiled, found, unwritten, location⟩ :=
      Token.tiled_of_scanFrom_error [] scanned
    exact ⟨tokens, lexemes, rest, skipped, flat, tiled.tiling, found, unwritten, location⟩

end NominalScript
