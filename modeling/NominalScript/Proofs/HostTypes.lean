import NominalScript.Proofs.Soundness

/-!
# Host types in checked programs

A typed builtin names the types of its signature after host types, and checking resolves
these names as it does those of a script: among the builtin types, and failing that among
the structs that the script declares.  So whether a signature means the host types depends
on the table of builtin types alone (`hostTyped_iff`).

* Where the table has every type that the builtins mention, their signatures mean the host
  types in every script, and no run of an accepted script gives a builtin an argument that
  it cannot read.
* Where it does not have one, a script that declares a struct of the name is accepted, and
  a builtin is called on that struct.
-/

namespace NominalScript

open Check (HostSignatureFor builtinSignatures builtinSignatures_eq_ok check_wellTyped)
open Checked (Signature)

/-- The errors of a builtin that is called on the wrong number or the wrong types of
arguments. -/
def RuntimeError.IsMismatch : RuntimeError → Prop
  | .arityMismatch _ _ _ => True
  | .argumentType _ _ _ => True
  | .returnType _ _ => False
  | .divisionByZero => False
  | .precondition _ => False

/-- Every type of the signature is the builtin type that the builtin names. -/
structure HostTyped (types : TypeTable) (b : Builtin) (s : Signature) : Prop where
  params : List.Forall₂ (fun q t => types.builtinNamed? q.typeName = some t) b.params s.paramTypes
  returns : types.builtinNamed? b.returnType = some s.returnType

section

variable {types : TypeTable}

/-- A name that resolves stands for a builtin type just when it is the name of one. -/
theorem builtinNamed?_iff {name : String} {t : TypeId}
    (resolved : types.names.resolve? name = some t) :
    types.builtinNamed? name = some t ↔ name ∈ types.builtins := by
  unfold TypeTable.builtinNamed?
  unfold TypeNames.resolve? at resolved
  cases found : types.builtins.idxOf? name with
  | none =>
    have absent := List.idxOf?_eq_none_iff.1 found
    simp [absent]
  | some i =>
    have present := List.mem_of_getElem? (TypeNames.getElem?_of_idxOf? found)
    change types.names.builtins.idxOf? name = some i at found
    rw [found] at resolved
    simpa [present] using resolved

/-- A signature means the host types just when all of them are builtin types. -/
theorem hostTyped_iff {b : Builtin} {s : Signature} (signature : HostSignatureFor types.names b s) :
    HostTyped types b s ↔ ∀ n ∈ b.typeNames, n ∈ types.builtins := by
  have params : List.Forall₂ (fun q t => types.builtinNamed? q.typeName = some t) b.params
      s.paramTypes ↔ ∀ q ∈ b.params, q.typeName ∈ types.builtins := by
    rw [Signature.paramTypes, List.forall₂_map_right_iff]
    refine ⟨?_, ?_⟩
    · intro named q mem
      rcases List.mem_iff_getElem?.1 mem with ⟨i, here⟩
      rcases Aligned.getElem?_left named here with ⟨f, there, found⟩
      rcases Aligned.getElem?_left signature.params here with ⟨f', there', _, resolved⟩
      cases there.symm.trans there'
      exact (builtinNamed?_iff resolved).1 found
    · intro known
      exact Aligned.imp_mem signature.params fun q mem f made =>
        (builtinNamed?_iff made.2).2 (known q mem)
  rw [Builtin.typeNames, List.forall_mem_cons, List.forall_mem_map, ← params,
    ← builtinNamed?_iff signature.returns]
  exact ⟨fun typed => ⟨typed.returns, typed.params⟩, fun both => ⟨both.2, both.1⟩⟩

end

/-- Typed builtins keep their host types in an accepted program just when these are builtin
types; and if they all are, a function that is called on values of its parameter types ends
with a value of its return type or with an error that is no mismatch of arguments. -/
theorem Syntax.Program.check_hostTyped {p : Syntax.Program} {host : Builtins} {a : Accepted}
    {values : HostValues} (accepted : p.check host = .ok a)
    (typed : ∀ b ∈ host.fns, b.IsTyped values fun e => ¬ e.IsMismatch) :
    ∃ signatures, builtinSignatures a.program.types host.fns = .ok signatures ∧
      List.Forall₂ (fun b s => HostTyped a.program.types b s ↔ ∀ n ∈ b.typeNames, n ∈ host.types)
        host.fns signatures ∧
      ((∀ b ∈ host.fns, ∀ n ∈ b.typeNames, n ∈ host.types) →
        List.Forall₂ (HostTyped a.program.types) host.fns signatures ∧
          a.program.SoundFor values fun e => ¬ e.IsMismatch) := by
  rcases check_wellTyped accepted with ⟨signatures, users, tables, hostFns, wellTyped⟩
  have exact : List.Forall₂ (fun b s => HostTyped a.program.types b s ↔
      ∀ n ∈ b.typeNames, n ∈ host.types) host.fns signatures := by
    apply tables.hostFns.imp
    intro b s signature
    rw [hostTyped_iff signature, tables.builtinTypes]
  refine ⟨signatures, ?_, exact, fun known => ⟨?_, ?_⟩⟩
  · exact builtinSignatures_eq_ok.2 ⟨tables.hostFns, (Check.apart_append.1 tables.apart).1⟩
  · exact Aligned.imp_mem exact fun b mem s keeps => keeps.2 (known b mem)
  · apply wellTyped.soundFor (tables.literals values)
    rw [hostFns]
    intro b mem
    apply (typed b mem).honours
    rw [tables.builtinTypes]
    exact known b mem

/-! ## A host type that is no builtin type -/

/-- `n` if the condition holds, and else zero. -/
def choosing : Builtin := .twoArgs "pick" "cond" "n" fun (c : Bool) (n : Int64) =>
  pure (if c then n else 0)

/-- Is it zero? -/
def testing : Builtin := .unaryOp "zero" fun n : Int64 => n == 0

theorem choosing_typed : choosing.IsTyped .standard fun e => ¬ e.IsMismatch :=
  .twoArgs fun _ _ => trivial

theorem testing_typed : testing.IsTyped .standard fun e => ¬ e.IsMismatch :=
  .unaryOp

/-- The program

    fn lot(n: Int) -> Int { return pick(zero(n), 5) }

which passes a truth value from one builtin to another. -/
def passing : Syntax.Program where
  structs := []
  fns := [⟨⟨"lot", .builtin⟩, [⟨⟨"n", .builtin⟩, ⟨"Int", .builtin⟩, .builtin⟩],
    some ⟨"Int", .builtin⟩, .builtin, [.ret (some (.call ⟨"pick", .builtin⟩
      [.call ⟨"zero", .builtin⟩ [.var "n" .builtin] .builtin, .int 5 .builtin] .builtin)) .builtin],
    .builtin⟩]

theorem check_hostTyped_passing :
    ∃ a f, passing.check ⟨["Void", "Int", "Bool", "String"], [choosing, testing]⟩ = .ok a ∧
      a.program.fns = [f] ∧ a.program.Evaluates f [.int 0] ⟨[], .ok (.int 5)⟩ ∧
      a.program.SoundFor .standard fun e => ¬ e.IsMismatch := by
  refine ⟨_, _, rfl, rfl, ⟨0, rfl⟩, ?_⟩
  have typed := @Syntax.Program.check_hostTyped passing
    ⟨["Void", "Int", "Bool", "String"], [choosing, testing]⟩ _ .standard rfl
    (by simpa using ⟨choosing_typed, testing_typed⟩)
  rcases typed with ⟨signatures, _, _, keeps⟩
  exact (keeps (by decide)).2

/-- The program

    struct Bool { n: Int }
    fn main() { pick(Bool { n: 1 }, 5) }

which declares a struct with the name of a host type. -/
def taking : Syntax.Program where
  structs := [⟨⟨"Bool", .builtin⟩, [⟨⟨"n", .builtin⟩, ⟨"Int", .builtin⟩, .builtin⟩], .builtin⟩]
  fns := [⟨⟨"main", .builtin⟩, [], none, .builtin, [.expr (.call ⟨"pick", .builtin⟩
    [.init ⟨"Bool", .builtin⟩ [⟨⟨"n", .builtin⟩, .int 1 .builtin, .builtin⟩] .builtin .builtin,
      .int 5 .builtin] .builtin)], .builtin⟩]

/-- Without `Bool` among the builtin types, a typed builtin takes a struct of that name, and
cannot read it. -/
theorem hostType_taken_by_struct :
    choosing.IsTyped .standard (fun e => ¬ e.IsMismatch) ∧
      ∃ a f signatures, taking.check ⟨["Void", "Int", "String"], [choosing]⟩ = .ok a ∧
        builtinSignatures a.program.types [choosing] = .ok signatures ∧
        signatures.map Signature.paramTypes = [[.struct 0, .builtin 1]] ∧
        a.program.fns = [f] ∧
        a.program.Evaluates f [] ⟨[], .error (.argumentType "pick" 0 "Bool")⟩ :=
  ⟨choosing_typed, _, _, _, rfl, rfl, rfl, rfl, 0, rfl⟩

end NominalScript
