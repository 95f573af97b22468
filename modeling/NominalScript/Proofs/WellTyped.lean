import NominalScript.Check.Expr
import NominalScript.Evaluate
import NominalScript.Proofs.Outcome
import NominalScript.Proofs.ValueType

/-!
# Well-typed code runs well

`Expr.WellTyped` and `Stmt.WellTyped` are the rules that checked code obeys.  They
are relative to a `Frame`, which has the type of every slot, and to the slots that
are *live*: those whose `let` has run by now.  Only a live slot may be read; the
others still hold `Void`.

* `Expr.WellTyped.ends`, `Stmt.exec_ends`: running well-typed code keeps every
  live slot at its type and ends with a value of the right type, given that calls
  do (`Sound`).
* `Stmt.exec_returns`: code that returns on all paths never runs off its end.
* `Fn.WellTyped.run_ends`: so a well-typed function gives a value of its return
  type, whatever path is taken.
-/

namespace NominalScript.Checked

open Check (Globals)

/-- What is fixed while a body runs: the program's types and functions, the type
of every slot, and the return type. -/
structure Frame where
  globals : Globals
  slots : List TypeId
  returns : TypeId

/-- The types of the program. -/
abbrev Frame.types (F : Frame) : TypeTable := F.globals.types

/-! ## Rules -/

/-- An expression that reads live slots only and whose parts have the types that
the functions, structs and slots say. -/
inductive Expr.WellTyped (F : Frame) (live : List Nat) : Expr → Prop
  | int (n : Int64) : WellTyped F live (.const (.int n) F.types.int)
  | str (s : String) : WellTyped F live (.const (.str s) F.types.string)
  | call {f : FnId} {s : Signature} {args : List Expr} :
    (f, s) ∈ F.globals.fns → args.map Expr.type = s.paramTypes →
    (∀ a ∈ args, WellTyped F live a) → WellTyped F live (.call f args s.returnType)
  | slot {i : Nat} {t : TypeId} :
    i ∈ live → F.slots[i]? = some t → WellTyped F live (.slot i t)
  | init {i : Nat} {s : StructType} {values : List Expr} :
    F.types.structs[i]? = some s → values.map Expr.type = s.fields.map Field.type →
    (∀ v ∈ values, WellTyped F live v) → WellTyped F live (.init i values (.struct i))
  | field {base : Expr} {i : Nat} {s : StructType} {f : Field} :
    F.types.struct? base.type = some s → s.fields[i]? = some f →
    WellTyped F live base → WellTyped F live (.field base i f.type)

/-- The live slots after a statement: a `let` adds its own. -/
def Stmt.liveAfter (live : List Nat) : Stmt → List Nat
  | .bind i _ => i :: live
  | _ => live

mutual

/-- A statement whose expressions are well typed, whose `let` fills a slot of the
right type and whose `return` has the right type. -/
def Stmt.WellTyped (F : Frame) (live : List Nat) : Stmt → Prop
  | .expr e => e.WellTyped F live
  | .cond chain => chain.WellTyped F live
  | .ret (some e) => e.WellTyped F live ∧ e.type = F.returns
  | .ret none => F.types.void = F.returns
  | .bind i e => e.WellTyped F live ∧ F.slots[i]? = some e.type

/-- Statements one after the other. -/
def Stmt.AllWellTyped (F : Frame) (live : List Nat) : List Stmt → Prop
  | [] => True
  | s :: rest => s.WellTyped F live ∧ Stmt.AllWellTyped F (s.liveAfter live) rest

/-- The branches of a conditional; what a branch binds is live in it alone. -/
def Chain.WellTyped (F : Frame) (live : List Nat) : Chain → Prop
  | .nothing => True
  | .otherwise block => Stmt.AllWellTyped F live block
  | .branch c block rest =>
    (c.WellTyped F live ∧ c.type = F.types.int) ∧ Stmt.AllWellTyped F live block ∧
      rest.WellTyped F live

end

mutual

/-- Does every path through a statement meet a `return`? -/
def Stmt.mustReturn : Stmt → Bool
  | .ret _ => true
  | .cond chain => chain.mustReturn
  | _ => false

/-- Does every path through some statements meet a `return`? -/
def Stmt.anyMustReturn : List Stmt → Bool
  | [] => false
  | s :: rest => s.mustReturn || Stmt.anyMustReturn rest

/-- Does every path through a conditional meet a `return`? -/
def Chain.mustReturn : Chain → Bool
  | .nothing => false
  | .otherwise block => Stmt.anyMustReturn block
  | .branch _ block rest => Stmt.anyMustReturn block && rest.mustReturn

end

/-- A function whose body is well typed with the parameters live, and which runs
off the end of its body only if it returns `Void`. -/
structure Fn.WellTyped (globals : Globals) (f : Fn) : Prop where
  body : ∃ (slots : List TypeId) (live : List Nat), slots.length = f.localCount ∧
    f.signature.paramTypes <+: slots ∧ (∀ i ∈ live, i < f.signature.params.length) ∧
    Stmt.AllWellTyped ⟨globals, slots, f.signature.returnType⟩ live f.body
  returns : f.signature.returnType = globals.types.void ∨ Stmt.anyMustReturn f.body

/-! ## Running expressions -/

section Running

variable {host : HostValues} {F : Frame} {invoke : Invoke} {bad : Halt → Prop}

/-- Calls with arguments of the right types end with a value of the return type,
or in one of the allowed ways. -/
def Sound (host : HostValues) (globals : Globals) (bad : Halt → Prop) (invoke : Invoke) : Prop :=
  ∀ f s, (f, s) ∈ globals.fns → ∀ vs, List.Forall₂ (·.HasType host globals.types) vs s.paramTypes →
    (invoke f vs).Ends (·.HasType host globals.types s.returnType) bad

/-- Every slot is there, and the live ones hold values of their types. -/
def Frame.Fits (F : Frame) (host : HostValues) (live : List Nat) (slots : List Value) : Prop :=
  slots.length = F.slots.length ∧
    ∀ i ∈ live, ∀ t, F.slots[i]? = some t →
      ∃ v, slots[i]? = some v ∧ v.HasType host F.types t

/-- The language's own types hold the values of literals and of empty returns. -/
structure Literals (host : HostValues) (types : TypeTable) : Prop where
  int : ∀ n, (Value.int n).HasType host types types.int
  str : ∀ s, (Value.str s).HasType host types types.string
  void : Value.void.HasType host types types.void

/-- Well-typed expressions give values of their types one after the other, unless one of them
ends badly. -/
theorem Expr.evalAll_ends {slots : List Value} {es : List Expr}
    (each : ∀ e ∈ es, (e.eval invoke slots).Ends (·.HasType host F.types e.type) bad) :
    (Expr.evalAll invoke slots es).Ends
      (fun vs => List.Forall₂ (·.HasType host F.types) vs (es.map Expr.type)) bad := by
  induction es with
  | nil => exact .nil
  | cons e es ih =>
    rw [Expr.evalAll]
    apply (each e (by simp)).bind
    intro v typed
    apply (ih fun e later => each e (by simp [later])).bind
    intro vs rest
    exact .cons typed rest

/-- A well-typed expression gives a value of its type. -/
theorem Expr.WellTyped.ends {live : List Nat} {slots : List Value} {e : Expr}
    (literals : Literals host F.types) (sound : Sound host F.globals bad invoke)
    (fits : F.Fits host live slots) (typed : e.WellTyped F live) :
    (e.eval invoke slots).Ends (·.HasType host F.types e.type) bad := by
  induction typed with
  | int n => exact literals.int n
  | str s => exact literals.str s
  | call entry types _ args =>
    rw [Expr.eval]
    apply (Expr.evalAll_ends args).bind
    intro vs fit
    exact sound _ _ entry vs (types ▸ fit)
  | slot isLive slotType =>
    obtain ⟨v, held, typed⟩ := fits.2 _ isLive _ slotType
    exact Outcome.ends_ofOption ⟨v, held, typed⟩
  | init entry types _ values =>
    rw [Expr.eval]
    apply (Expr.evalAll_ends values).bind
    intro vs fit
    exact Value.HasType.struct entry (types ▸ fit)
  | field struct declared _ base =>
    rw [Expr.eval]
    apply base.bind
    intro v typed
    exact Outcome.ends_ofOption (typed.field struct declared)

/-! ## Running statements -/

/-- What a statement may lead to: onward with the given slots live, or out of the
function with a value of its return type. -/
def Frame.Good (F : Frame) (host : HostValues) (live : List Nat) : Flow → Prop
  | .onward slots => F.Fits host live slots
  | .returned v => v.HasType host F.types F.returns

theorem Frame.Fits.mono {live live' : List Nat} {slots : List Value} (fits : F.Fits host live slots)
    (fewer : live' ⊆ live) : F.Fits host live' slots :=
  ⟨fits.1, fun i isLive => fits.2 i (fewer isLive)⟩

theorem Frame.Good.mono {live live' : List Nat} {flow : Flow} (good : F.Good host live flow)
    (fewer : live' ⊆ live) : F.Good host live' flow := by
  cases flow with
  | onward slots => exact Frame.Fits.mono good fewer
  | returned v => exact good

/-- Filling a slot with a value of its type keeps all others and makes it live. -/
theorem Frame.Fits.fill {live : List Nat} {slots : List Value} {i : Nat} {t : TypeId} {v : Value}
    (fits : F.Fits host live slots) (slotType : F.slots[i]? = some t)
    (typed : v.HasType host F.types t) :
    (fill slots i v).Ends (F.Good host (i :: live)) bad := by
  have bound : i < slots.length := by
    rw [fits.1]
    exact (List.getElem?_eq_some_iff.1 slotType).1
  unfold Checked.fill
  rw [if_pos bound]
  refine ⟨by simpa using fits.1, fun j isLive u slotType' => ?_⟩
  by_cases same : i = j
  · subst same
    rw [slotType] at slotType'
    cases slotType'
    exact ⟨v, by simp [bound], typed⟩
  · rcases List.mem_cons.1 isLive with rfl | before
    · exact absurd rfl same
    · obtain ⟨w, held, kept⟩ := fits.2 j before u slotType'
      exact ⟨w, by rw [List.getElem?_set_ne same]; exact held, kept⟩

theorem Stmt.subset_liveAfter (live : List Nat) (s : Stmt) : live ⊆ s.liveAfter live := by
  cases s <;> simp [Stmt.liveAfter]

mutual

/-- A well-typed statement makes its slot live and returns a value of the return
type, if it returns. -/
theorem Stmt.exec_ends (literals : Literals host F.types)
    (sound : Sound host F.globals bad invoke) :
    ∀ (s : Stmt) {live : List Nat} {slots : List Value}, s.WellTyped F live →
      F.Fits host live slots → (s.exec invoke slots).Ends (F.Good host (s.liveAfter live)) bad
  | .expr e, live, slots, typed, fits => by
    rw [Stmt.WellTyped] at typed
    rw [Stmt.exec]
    exact (typed.ends literals sound fits).bind fun _ _ => fits
  | .cond chain, live, slots, typed, fits => by
    rw [Stmt.WellTyped] at typed
    rw [Stmt.exec]
    exact Chain.exec_ends literals sound chain typed fits
  | .ret (some e), live, slots, typed, fits => by
    rw [Stmt.WellTyped] at typed
    rw [Stmt.exec]
    apply (typed.1.ends literals sound fits).bind
    intro v fit
    rw [typed.2] at fit
    exact fit
  | .ret none, live, slots, typed, fits => by
    rw [Stmt.WellTyped] at typed
    rw [Stmt.exec]
    have fit := literals.void
    rw [typed] at fit
    exact fit
  | .bind i e, live, slots, typed, fits => by
    rw [Stmt.WellTyped] at typed
    rw [Stmt.exec]
    apply (typed.1.ends literals sound fits).bind
    intro v fit
    exact fits.fill typed.2 fit

/-- A well-typed block ends with the live slots fitting their types, with a value of the return
type, or with an allowed error. -/
theorem Stmt.execAll_ends (literals : Literals host F.types)
    (sound : Sound host F.globals bad invoke) :
    ∀ (body : List Stmt) {live : List Nat} {slots : List Value}, Stmt.AllWellTyped F live body →
      F.Fits host live slots → (Stmt.execAll invoke body slots).Ends (F.Good host live) bad
  | [], live, slots, _, fits => fits
  | s :: rest, live, slots, typed, fits => by
    rw [Stmt.AllWellTyped] at typed
    rw [Stmt.execAll]
    apply (Stmt.exec_ends literals sound s typed.1 fits).bind
    intro flow good
    cases flow with
    | onward slots' =>
      -- The rest of the block may add live slots; those of before stay live.
      exact (Stmt.execAll_ends literals sound rest typed.2 good).mono
        (fun _ kept => kept.mono (Stmt.subset_liveAfter live s)) fun _ error => error
    | returned v => exact good

/-- A well-typed chain ends like the block that is run, if one is, with the slots live that were
live before it. -/
theorem Chain.exec_ends (literals : Literals host F.types)
    (sound : Sound host F.globals bad invoke) :
    ∀ (chain : Chain) {live : List Nat} {slots : List Value}, chain.WellTyped F live →
      F.Fits host live slots → (chain.exec invoke slots).Ends (F.Good host live) bad
  | .nothing, live, slots, _, fits => fits
  | .otherwise block, live, slots, typed, fits => by
    rw [Chain.WellTyped] at typed
    rw [Chain.exec]
    exact Stmt.execAll_ends literals sound block typed fits
  | .branch c block rest, live, slots, typed, fits => by
    rw [Chain.WellTyped] at typed
    obtain ⟨condition, block', rest'⟩ := typed
    rw [Chain.exec]
    apply (condition.1.ends literals sound fits).bind
    intro v _
    split
    · exact Stmt.execAll_ends literals sound block block' fits
    · exact Chain.exec_ends literals sound rest rest' fits

end

/-! ## Returning on all paths -/

/-- Out of the function. -/
def Flow.IsReturn : Flow → Prop
  | .returned _ => True
  | .onward _ => False

mutual

/-- A statement that returns on all paths returns whenever its run ends; nothing is asked of
types. -/
theorem Stmt.exec_returns :
    ∀ (s : Stmt) {slots : List Value}, s.mustReturn = true →
      (s.exec invoke slots).Ends Flow.IsReturn fun _ => True
  | .ret (some e), slots, _ => by
    rw [Stmt.exec]
    exact (Outcome.ends_trivial _).bind fun _ _ => trivial
  | .ret none, slots, _ => trivial
  | .cond chain, slots, returns => by
    rw [Stmt.exec]
    exact Chain.exec_returns chain (by simpa [Stmt.mustReturn] using returns)
  | .expr e, slots, returns => by simp [Stmt.mustReturn] at returns
  | .bind i e, slots, returns => by simp [Stmt.mustReturn] at returns

/-- A block one statement of which always returns does return, if it ends; what stands in front
of it may return before. -/
theorem Stmt.execAll_returns :
    ∀ (body : List Stmt) {slots : List Value}, Stmt.anyMustReturn body = true →
      (Stmt.execAll invoke body slots).Ends Flow.IsReturn fun _ => True
  | [], slots, returns => by simp [Stmt.anyMustReturn] at returns
  | s :: rest, slots, returns => by
    rw [Stmt.execAll]
    rw [Stmt.anyMustReturn, Bool.or_eq_true] at returns
    rcases returns with here | later
    · apply (Stmt.exec_returns s here).bind
      intro flow out
      cases flow with
      | onward slots' => exact out.elim
      | returned v => exact out
    · apply (Outcome.ends_trivial _).bind
      intro flow _
      cases flow with
      | onward slots' => exact Stmt.execAll_returns rest later
      | returned v => trivial

/-- A chain that returns on all paths has an `else`, so one of its blocks is run. -/
theorem Chain.exec_returns :
    ∀ (chain : Chain) {slots : List Value}, chain.mustReturn = true →
      (chain.exec invoke slots).Ends Flow.IsReturn fun _ => True
  | .nothing, slots, returns => by simp [Chain.mustReturn] at returns
  | .otherwise block, slots, returns => by
    rw [Chain.exec]
    exact Stmt.execAll_returns block (by simpa [Chain.mustReturn] using returns)
  | .branch c block rest, slots, returns => by
    rw [Chain.mustReturn, Bool.and_eq_true] at returns
    rw [Chain.exec]
    apply (Outcome.ends_trivial _).bind
    intro v _
    split
    · exact Stmt.execAll_returns block returns.1
    · exact Chain.exec_returns rest returns.2

end

/-! ## Running functions -/

/-- The slots of a call hold its arguments first, and these are the slots that are live when the
body starts. -/
theorem Fn.slots_fits {f : Fn} {slots : List TypeId} {live : List Nat} {args : List Value}
    {returns : TypeId} {globals : Globals} (length : slots.length = f.localCount)
    (params : f.signature.paramTypes <+: slots)
    (first : ∀ i ∈ live, i < f.signature.params.length)
    (fit : List.Forall₂ (·.HasType host globals.types) args f.signature.paramTypes) :
    Frame.Fits ⟨globals, slots, returns⟩ host live (f.slots args) := by
  have arity : args.length = f.signature.params.length := by
    simpa [Signature.paramTypes] using fit.length_eq
  have bound : f.signature.params.length ≤ f.localCount := by
    simpa [Signature.paramTypes, length] using params.length_le
  refine ⟨by simp [Fn.slots, length]; omega, fun i isLive t slotType => ?_⟩
  have isParam := first i isLive
  have paramType : f.signature.paramTypes[i]? = some t := by
    obtain ⟨rest, rfl⟩ := params
    rwa [List.getElem?_append_left (by simpa [Signature.paramTypes] using isParam)] at slotType
  obtain ⟨v, arg, typed⟩ := Aligned.getElem?_right fit paramType
  refine ⟨v, ?_, typed⟩
  rw [Fn.slots, List.getElem?_append_left (by omega)]
  exact arg

/-- A well-typed function gives a value of its return type, on every path. -/
theorem Fn.WellTyped.run_ends {globals : Globals} {f : Fn} {args : List Value}
    (literals : Literals host globals.types) (sound : Sound host globals bad invoke)
    (typed : f.WellTyped globals)
    (fit : List.Forall₂ (·.HasType host globals.types) args f.signature.paramTypes) :
    (f.run invoke args).Ends (·.HasType host globals.types f.signature.returnType) bad := by
  obtain ⟨slots, live, length, params, first, body⟩ := typed.body
  have arity : args.length = f.signature.params.length := by
    simpa [Signature.paramTypes] using fit.length_eq
  have ran := Stmt.execAll_ends (F := ⟨globals, slots, f.signature.returnType⟩) literals sound
    f.body body (Fn.slots_fits length params first fit)
  unfold Fn.run
  rw [if_pos arity]
  rcases typed.returns with void | returns
  · apply ran.bind
    intro flow good
    cases flow with
    | onward slots' => exact void ▸ literals.void
    | returned v => exact good
  · apply (ran.and (Stmt.execAll_returns f.body returns)).bind
    intro flow good
    cases flow with
    | onward slots' => exact good.2.elim
    | returned v => exact good.1

end Running

end NominalScript.Checked
