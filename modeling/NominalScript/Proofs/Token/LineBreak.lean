import NominalScript.Proofs.Token.Render

/-!
# Texts joined by a line break

Every token but a string ends with its line, and a string is closed before its text ends.
So what is cut off a text stays as it is when a line break and more text come behind it,
and the line break is a token of its own.

Where a text starts decides nothing but locations: the same text further down has the
same tokens as many lines further down (`Token.scanFrom_down`).  The two together give
the tokens of two texts with a line break between them.
-/

namespace NominalScript

/-! ## Further down -/

/-- The same column, some lines further down. -/
def Location.down (n : Nat) (l : Location) : Location := { l with line := l.line + n }

/-- The same token, some lines further down. -/
def Token.down (n : Nat) (t : Token) : Token := { t with start := t.start.down n }

/-- The same fault, some lines further down. -/
def LexError.down (n : Nat) (e : LexError) : LexError := { e with location := e.location.down n }

/-- The tokens of a text, or its fault, some lines further down. -/
def Token.scannedDown (n : Nat) :
    Except LexError (List Token) → Except LexError (List Token)
  | .ok tokens => .ok (tokens.map (Token.down n))
  | .error e => .error (e.down n)

theorem Location.step_down (n : Nat) (l : Location) (c : Char) :
    (l.down n).step c = (l.step c).down n := by
  unfold Location.step
  split
  · simp only [Location.down, Location.mk.injEq, and_true]
    omega
  · rfl

theorem Location.advance_down (n : Nat) (l : Location) (text : List Char) :
    (l.down n).advance text = (l.advance text).down n := by
  induction text generalizing l with
  | nil => rfl
  | cons c text ih => rw [Location.advance_cons, Location.advance_cons, Location.step_down, ih]

/-- The text further down is cut in the same way. -/
theorem Token.scanFrom_down (n : Nat) (l : Location) (cs : List Char) :
    Token.scanFrom (l.down n) cs = Token.scannedDown n (Token.scanFrom l cs) := by
  fun_induction Token.scanFrom l cs with
  | case1 => rw [Token.scanFrom]; rfl
  | case2 l c cs f stopped =>
    rw [Token.scanFrom, stopped]
    simp only [Location.advance_down]
    rfl
  | case3 l c cs x cut e later ih =>
    rw [later] at ih
    rw [Token.scanFrom, cut]
    simp only [Location.advance_down, ih, Token.scannedDown]
  | case4 l c cs x cut ts later ih =>
    rw [later] at ih
    rw [Token.scanFrom, cut]
    simp only [Location.advance_down, ih, Token.scannedDown, List.map_cons, Token.down]

/-! ## A line break behind a text -/

/-- No token goes on with a line feed. -/
theorem Kind.continues_newline (k : Kind) : k.continues '\n' = false := by
  cases k <;> rfl

theorem Kind.endsBefore_append_newline {k : Kind} {rest : List Char} (ends : k.EndsBefore rest)
    (more : List Char) : k.EndsBefore (rest ++ '\n' :: more) := by
  cases rest with
  | nil =>
    intro c follows
    cases follows
    exact k.continues_newline
  | cons d rest => exact ends

/-- A line feed is one token. -/
theorem Token.scanFrom_newline (l : Location) (cs : List Char) :
    Token.scanFrom l ('\n' :: cs) =
      (Token.scanFrom (l.step '\n') cs).map (⟨.blank .newline, l, Size.of ['\n']⟩ :: ·) :=
  Token.scanFrom_append (.mark (by decide)) fun _ _ => rfl

/-- What is cut off a text is also cut off when a line break and more come behind it. -/
theorem Token.scanFrom_append_newline {l : Location} {cs : List Char} {tokens : List Token}
    (scanned : Token.scanFrom l cs = .ok tokens) (more : List Char) :
    Token.scanFrom l (cs ++ '\n' :: more) =
      (Token.scanFrom (l.advance cs) ('\n' :: more)).map (tokens ++ ·) := by
  fun_induction Token.scanFrom l cs generalizing tokens with
  | case1 l =>
    cases scanned
    rw [Location.advance_nil, List.nil_append]
    cases Token.scanFrom l ('\n' :: more) <;> rfl
  | case2 => cases scanned
  | case3 => cases scanned
  | case4 l c cs x cut ts later ih =>
    cases scanned
    obtain ⟨writes, ends⟩ := Lexeme.writes_of_first cut
    have there : l.advance (c :: cs) = (l.advance x.text).advance x.rest := by
      rw [← Location.advance_append, x.split]
    have text : c :: cs ++ '\n' :: more = x.text ++ (x.rest ++ '\n' :: more) := by
      rw [← List.append_assoc, x.split]
    rw [there, text, Token.scanFrom_append writes (Kind.endsBefore_append_newline ends more),
      ih later]
    cases Token.scanFrom ((l.advance x.text).advance x.rest) ('\n' :: more) <;> rfl

/-- The first place behind a text and a line break. -/
theorem Location.step_after (text : List Char) :
    (Location.after text).step '\n' = Location.origin.down (1 + text.count '\n') := by
  simp only [Location.after, Location.step, Location.origin, Location.down, if_true,
    Location.mk.injEq, and_true]
  omega

/-- The line break behind a text. -/
def Token.lineBreak (text : List Char) : Token := ⟨.blank .newline, .after text, ⟨2, 0⟩⟩

/-- Two texts with a line break between them have the tokens of the first, one newline,
and the tokens of the second as many lines further down as there are lines above it.
Where the second cannot be cut into tokens, neither can the whole, for the same fault as
many lines further down. -/
theorem Token.scan_joined {first : String} {tokens : List Token}
    (scanned : Token.scan first = .ok tokens) (second : String) :
    let above := 1 + first.toList.count '\n'
    match Token.scan second with
    | .ok later => Token.scan (first ++ "\n" ++ second) =
        .ok (tokens ++ Token.lineBreak first.toList :: later.map (Token.down above))
    | .error e => Token.scan (first ++ "\n" ++ second) = .error (e.down above) := by
  intro above
  have joined : (first ++ "\n" ++ second).toList = first.toList ++ '\n' :: second.toList := by
    simp [String.toList_append]
  have whole : Token.scan (first ++ "\n" ++ second) =
      (Token.scannedDown above (Token.scan second)).map
        fun later => tokens ++ Token.lineBreak first.toList :: later := by
    rw [Token.scan, joined, Token.scanFrom_append_newline scanned, Location.advance_origin,
      Token.scanFrom_newline, Location.step_after, Token.scanFrom_down, Token.scan]
    cases Token.scannedDown above (Token.scanFrom .origin second.toList) <;> rfl
  cases below : Token.scan second with
  | ok later => rw [whole, below]; rfl
  | error e => rw [whole, below]; rfl

/-- The first text ends with a comment that would take up what comes behind it on its
line; the string of the second goes over two lines, and a backslash behind it would be no
token. -/
theorem Token.scan_joined_comment :
    let tokens : List Token := [⟨.ident "a", ⟨1, 1⟩, ⟨1, 1⟩⟩, ⟨.blank .space, ⟨1, 2⟩, ⟨1, 1⟩⟩,
      ⟨.comment "", ⟨1, 3⟩, ⟨1, 2⟩⟩, ⟨.blank .newline, ⟨1, 5⟩, ⟨2, 0⟩⟩,
      ⟨.comment " \"", ⟨2, 1⟩, ⟨1, 4⟩⟩]
    Token.scan "a //\n// \"" = .ok tokens ∧
      Token.scan ("a //\n// \"" ++ "\n" ++ "\"\r\n\"-") =
        .ok (tokens ++ [⟨.blank .newline, ⟨2, 5⟩, ⟨2, 0⟩⟩, ⟨.str "\n", ⟨3, 1⟩, ⟨2, 1⟩⟩,
          ⟨.op "-", ⟨4, 2⟩, ⟨1, 1⟩⟩]) ∧
      Token.scan ("a //\n// \"" ++ "\n" ++ "\"\r\n\"\\") =
        .error ⟨.unexpected '\\', ⟨4, 2⟩⟩ := by
  intro tokens
  have first : Token.scan "a //\n// \"" = .ok tokens := by decide +kernel
  have string : Token.scan "\"\r\n\"-" =
      .ok [⟨.str "\n", ⟨1, 1⟩, ⟨2, 1⟩⟩, ⟨.op "-", ⟨2, 2⟩, ⟨1, 1⟩⟩] := by decide +kernel
  have backslash : Token.scan "\"\r\n\"\\" = .error ⟨.unexpected '\\', ⟨2, 2⟩⟩ := by
    decide +kernel
  have succeeds := Token.scan_joined first "\"\r\n\"-"
  have fails := Token.scan_joined first "\"\r\n\"\\"
  rw [string] at succeeds
  rw [backslash] at fails
  exact ⟨first, succeeds, fails⟩

end NominalScript
