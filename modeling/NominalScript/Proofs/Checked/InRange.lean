import NominalScript.Proofs.Checked.Nodes
import NominalScript.Proofs.Slots
import NominalScript.Proofs.WellTyped

/-!
# Checked code refers to what is there

Checked code refers by number to types, functions, slots, structs and fields.
`Program.InRange` says of a program that each of these numbers has an entry in its table.

`Fn.WellTyped.inRange` derives it from the typing rules.  The rules do not say that the
type of a slot exists; it does for the live slots, since a slot becomes live with a value
of its type.
-/

namespace NominalScript

/-- Every type that a table mentions has a name in it. -/
structure TypeTable.InRange (t : TypeTable) : Prop where
  void : t.names.Has t.void
  int : t.names.Has t.int
  string : t.names.Has t.string
  fields : ∀ s ∈ t.structs, ∀ f ∈ s.fields, t.names.Has f.type

/-- Every type of a signature has a name. -/
structure Checked.Signature.InRange (names : TypeNames) (s : Checked.Signature) : Prop where
  params : ∀ t ∈ s.paramTypes, names.Has t
  returns : names.Has s.returnType

/-- Every type in the tables that bodies are checked against has a name. -/
structure Check.Globals.InRange (g : Check.Globals) : Prop where
  types : g.types.InRange
  fns : ∀ f ∈ g.fns, f.2.InRange g.types.names

namespace Checked

open Check (Globals)

/-- The number of a function has an entry. -/
def Program.HasFn (p : Program) : FnId → Prop
  | .builtin i => i < p.builtins.length
  | .user i => i < p.fns.length

/-- The number in an expression, apart from those in its parts, has an entry: the function
it calls, the slot it reads, the struct it builds, or the field it takes, which is one of
the struct that its base is of. -/
def Expr.RefersWithin (p : Program) (slotCount : Nat) : Expr → Prop
  | .const _ _ => True
  | .call f _ _ => p.HasFn f
  | .slot i _ => i < slotCount
  | .init i _ _ => i < p.types.structs.length
  | .field base i _ => ∃ s, p.types.struct? base.type = some s ∧ i < s.fields.length

/-- Every number in a function has an entry. -/
structure Fn.InRange (p : Program) (f : Fn) : Prop where
  signature : f.signature.InRange p.types.names
  params : f.signature.params.length ≤ f.localCount
  types : ∀ e ∈ f.nodes, p.types.names.Has e.type
  refers : ∀ e ∈ f.nodes, e.RefersWithin p f.localCount
  binds : ∀ i ∈ Stmt.bindsOfAll f.body, i < f.localCount

/-- Every number in a program has an entry in the table that it is for. -/
structure Program.InRange (p : Program) : Prop where
  types : p.types.InRange
  fns : ∀ f ∈ p.fns, f.InRange p

/-- The types of the live slots have names. -/
def Frame.LiveInRange (F : Frame) (live : List Nat) : Prop :=
  ∀ i ∈ live, ∀ t, F.slots[i]? = some t → F.types.names.Has t

variable {F : Frame} {live : List Nat}

/-! ## Expressions -/

/-- A well-typed expression has a type with a name, if the table's types and those of the live
slots do. -/
theorem Expr.WellTyped.has_type {e : Expr} (known : F.globals.InRange)
    (slots : F.LiveInRange live) (typed : e.WellTyped F live) : F.types.names.Has e.type := by
  cases typed with
  | int n => exact known.types.int
  | str s => exact known.types.string
  | call entry _ _ => exact (known.fns _ entry).returns
  | slot isLive slotType => exact slots _ isLive _ slotType
  | init entry _ _ =>
    have bound := (List.getElem?_eq_some_iff.1 entry).1
    simpa [Expr.type, TypeTable.names, TypeNames.Has] using bound
  | @field base i s f struct declared _ =>
    have listed : s ∈ F.types.structs := by
      unfold TypeTable.struct? at struct
      split at struct
      · exact List.mem_of_getElem? struct
      · cases struct
    exact known.types.fields s listed f (List.mem_of_getElem? declared)

theorem Expr.WellTyped.refersWithin {p : Program} {e : Expr} (types : F.types = p.types)
    (fns : ∀ f ∈ F.globals.fns, p.HasFn f.1) (typed : e.WellTyped F live) :
    e.RefersWithin p F.slots.length := by
  cases typed with
  | int n => trivial
  | str s => trivial
  | call entry _ _ => exact fns _ entry
  | slot _ slotType => exact (List.getElem?_eq_some_iff.1 slotType).1
  | init entry _ _ => exact (List.getElem?_eq_some_iff.1 (types ▸ entry)).1
  | field struct declared _ =>
    exact ⟨_, types ▸ struct, (List.getElem?_eq_some_iff.1 declared).1⟩

/-- The parts of a well-typed expression are well typed. -/
theorem Expr.WellTyped.nodes {e : Expr} (typed : e.WellTyped F live) :
    ∀ n ∈ e.nodes, n.WellTyped F live := by
  have parts : ∀ {es : List Expr}, (∀ e ∈ es, ∀ n ∈ e.nodes, n.WellTyped F live) →
      ∀ n ∈ Expr.nodesOfAll es, n.WellTyped F live := by
    intro es each
    rw [Expr.nodesOfAll_eq_flatMap]
    exact List.forall_mem_flatMap.2 each
  induction typed with
  | int n => exact List.forall_mem_singleton.2 (.int n)
  | str s => exact List.forall_mem_singleton.2 (.str s)
  | call entry types args ih => exact List.forall_mem_cons.2 ⟨.call entry types args, parts ih⟩
  | slot isLive slotType => exact List.forall_mem_singleton.2 (.slot isLive slotType)
  | init entry types values ih =>
    exact List.forall_mem_cons.2 ⟨.init entry types values, parts ih⟩
  | field struct declared base ih =>
    exact List.forall_mem_cons.2 ⟨.field struct declared base, ih⟩

/-! ## Statements -/

/-- Expressions that are well typed, each with slots live whose types exist, and slots that
are there. -/
structure Frame.Admits (F : Frame) (nodes : List Expr) (binds : List Nat) : Prop where
  nodes : ∀ n ∈ nodes, ∃ live, F.LiveInRange live ∧ n.WellTyped F live
  binds : ∀ i ∈ binds, i < F.slots.length

theorem Frame.Admits.nil : F.Admits [] [] := ⟨nofun, nofun⟩

theorem Frame.Admits.append {nodes nodes' : List Expr} {binds binds' : List Nat}
    (first : F.Admits nodes binds) (second : F.Admits nodes' binds') :
    F.Admits (nodes ++ nodes') (binds ++ binds') :=
  ⟨List.forall_mem_append.2 ⟨first.nodes, second.nodes⟩,
    List.forall_mem_append.2 ⟨first.binds, second.binds⟩⟩

theorem Expr.WellTyped.admits {e : Expr} (slots : F.LiveInRange live)
    (typed : e.WellTyped F live) : F.Admits e.nodes [] :=
  ⟨fun n part => ⟨live, slots, typed.nodes n part⟩, nofun⟩

/-- A statement makes live only a slot that it fills with a value of its type. -/
theorem Stmt.WellTyped.liveInRange {s : Stmt} (known : F.globals.InRange)
    (slots : F.LiveInRange live) (typed : s.WellTyped F live) :
    F.LiveInRange (s.liveAfter live) := by
  cases s with
  | bind i e =>
    rw [Stmt.WellTyped] at typed
    refine List.forall_mem_cons.2 ⟨fun t slotType => ?_, slots⟩
    rw [typed.2] at slotType
    cases slotType
    exact typed.1.has_type known slots
  | expr e => exact slots
  | cond chain => exact slots
  | ret value => exact slots

mutual

/-- The nodes of a well-typed statement stand where the slots live there have types with names,
and every slot it binds has an entry in the frame. -/
theorem Stmt.WellTyped.admits (known : F.globals.InRange) :
    ∀ (s : Stmt) {live : List Nat}, F.LiveInRange live → s.WellTyped F live →
      F.Admits s.nodes s.binds
  | .expr e, live, slots, typed => by
    rw [Stmt.WellTyped] at typed
    exact typed.admits slots
  | .cond chain, live, slots, typed => by
    rw [Stmt.WellTyped] at typed
    exact Chain.WellTyped.admits known chain slots typed
  | .ret (some e), live, slots, typed => by
    rw [Stmt.WellTyped] at typed
    exact typed.1.admits slots
  | .ret none, live, slots, _ => .nil
  | .bind i e, live, slots, typed => by
    rw [Stmt.WellTyped] at typed
    refine ⟨(typed.1.admits slots).nodes, List.forall_mem_singleton.2 ?_⟩
    exact (List.getElem?_eq_some_iff.1 typed.2).1

theorem Stmt.AllWellTyped.admits (known : F.globals.InRange) :
    ∀ (body : List Stmt) {live : List Nat}, F.LiveInRange live → Stmt.AllWellTyped F live body →
      F.Admits (Stmt.nodesOfAll body) (Stmt.bindsOfAll body)
  | [], live, slots, _ => .nil
  | s :: rest, live, slots, typed => by
    rw [Stmt.AllWellTyped] at typed
    rw [Stmt.nodesOfAll, Stmt.bindsOfAll]
    have first := Stmt.WellTyped.admits known s slots typed.1
    have after := typed.1.liveInRange known slots
    exact first.append (Stmt.AllWellTyped.admits known rest after typed.2)

/-- The nodes of a well-typed chain stand where the live slots have types with names, in its
blocks too. -/
theorem Chain.WellTyped.admits (known : F.globals.InRange) :
    ∀ (chain : Chain) {live : List Nat}, F.LiveInRange live → chain.WellTyped F live →
      F.Admits chain.nodes chain.binds
  | .nothing, live, slots, _ => .nil
  | .otherwise block, live, slots, typed => by
    rw [Chain.WellTyped] at typed
    exact Stmt.AllWellTyped.admits known block slots typed
  | .branch c block rest, live, slots, typed => by
    rw [Chain.WellTyped] at typed
    obtain ⟨condition, block', rest'⟩ := typed
    have inside := Stmt.AllWellTyped.admits known block slots block'
    have others := Chain.WellTyped.admits known rest slots rest'
    rw [Chain.nodes, Chain.binds]
    exact (condition.1.admits slots).append (inside.append others)

end

/-! ## Functions -/

/-- A well-typed function is in range: its body's nodes are, and its slots are those of its
frame. -/
theorem Fn.WellTyped.inRange {g : Globals} {p : Program} {f : Fn} (types : g.types = p.types)
    (known : g.InRange) (fns : ∀ f ∈ g.fns, p.HasFn f.1)
    (signature : f.signature.InRange g.types.names) (typed : f.WellTyped g) : f.InRange p := by
  obtain ⟨slots, live, length, params, first, body⟩ := typed.body
  have slotCount : f.signature.params.length ≤ f.localCount := by
    simpa [Signature.paramTypes, length] using params.length_le
  have liveParams : Frame.LiveInRange ⟨g, slots, f.signature.returnType⟩ live := by
    intro i isLive t slotType
    obtain ⟨rest, split⟩ := params
    have isParam : i < f.signature.paramTypes.length := by
      simpa [Signature.paramTypes] using first i isLive
    rw [← split, List.getElem?_append_left isParam] at slotType
    exact signature.params t (List.mem_of_getElem? slotType)
  have admits := Stmt.AllWellTyped.admits known f.body liveParams body
  refine ⟨types ▸ signature, slotCount, fun e part => ?_, fun e part => ?_, ?_⟩
  · obtain ⟨live, inRange, node⟩ := admits.nodes e part
    exact types ▸ node.has_type known inRange
  · obtain ⟨live, _, node⟩ := admits.nodes e part
    exact length ▸ node.refersWithin types fns
  · exact length ▸ admits.binds

end Checked

end NominalScript
