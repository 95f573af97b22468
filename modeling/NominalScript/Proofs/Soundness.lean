import NominalScript.Proofs.Check.WellTyped
import NominalScript.Proofs.Evaluates

/-!
# Type soundness

A program that passes the check and whose builtins keep to their signatures keeps
to its own: called on values of its parameter types, a function of the program
ends with a value of its return type, or with an error that some builtin has
raised on values of its parameter types.

* `Builtin.Honours` is what is asked of a builtin.  A typed builtin meets it if its types
  are builtin types (`Builtin.IsTyped.honours`), and `standardFns_honour` says that the
  standard builtins do and raise nothing but `divisionByZero`.
* `Checked.Program.WellTyped` is what checking establishes of a whole program
  (`check_wellTyped`), and `Checked.Program.WellTyped.invoke_sound` carries it
  through calls nested to any depth.
-/

namespace NominalScript

open Check (Globals Tables HostSignatureFor HostParamFor)
open Checked (Signature)

/-! ## Builtins -/

/-- Called on values of its parameter types, the builtin gives a value of its
return type or one of the allowed errors. -/
def Builtin.Honours (host : HostValues) (types : TypeTable) (bad : RuntimeError → Prop)
    (b : Builtin) : Prop :=
  ∀ s, HostSignatureFor types.names b s →
    ∀ vs, List.Forall₂ (·.HasType host types) vs s.paramTypes →
      (b.native vs).Ends (·.HasType host types s.returnType) bad

/-- Called on some values of its parameter types, the builtin gives this error. -/
def Builtin.Raises (host : HostValues) (types : TypeTable) (b : Builtin) (e : RuntimeError) :
    Prop :=
  ∃ s vs, HostSignatureFor types.names b s ∧
    List.Forall₂ (·.HasType host types) vs s.paramTypes ∧ (b.native vs).result = .error e

/-- A builtin that gives values of its return type if it gives any raises only the
errors that it raises. -/
theorem Builtin.Honours.raises {host : HostValues} {types : TypeTable} {b : Builtin}
    (honours : b.Honours host types fun _ => True) :
    b.Honours host types (b.Raises host types) := by
  intro s signature vs fit
  obtain ⟨values, _⟩ := Outcome.ends_iff.1 (honours s signature vs fit)
  exact Outcome.ends_iff.2 ⟨values, fun e failed => ⟨s, vs, signature, fit, failed⟩⟩

theorem Builtin.Honours.mono {host : HostValues} {types : TypeTable}
    {bad bad' : RuntimeError → Prop}
    {b : Builtin} (honours : b.Honours host types bad) (errors : ∀ e, bad e → bad' e) :
    b.Honours host types bad' :=
  fun s signature vs fit => (honours s signature vs fit).mono (fun _ ok => ok) errors

/-! ## Typed builtins -/

/-- The values of a builtin type are just those that stand for elements of the host
type. -/
class Represents (host : HostValues) (α : Type) [HostType α] : Prop where
  writes : ∀ a : α, host.Holds (HostType.typeName α) (HostType.toValue a)
  reads : ∀ v : Value, host.Holds (HostType.typeName α) v → ∃ a : α, HostType.ofValue? v = some a

/-- The names of the types that a builtin mentions: what it returns, and its
parameters. -/
def Builtin.typeNames (b : Builtin) : List String :=
  b.returnType :: b.params.map BuiltinParam.typeName

/-- A builtin made from a function between host types, which raises no errors of its own
but the given ones. -/
inductive Builtin.IsTyped (host : HostValues) (own : RuntimeError → Prop) : Builtin → Prop
  | oneArg {α β : Type} [HostType α] [HostType β] [Represents host α] [Represents host β]
    {name label : String} {f : α → Outcome RuntimeError β} :
    (∀ a, (f a).Ends (fun _ => True) own) → IsTyped host own (.oneArg name label f)
  | twoArgs {α β γ : Type} [HostType α] [HostType β] [HostType γ] [Represents host α]
    [Represents host β] [Represents host γ] {name label₁ label₂ : String}
    {f : α → β → Outcome RuntimeError γ} :
    (∀ a b, (f a b).Ends (fun _ => True) own) → IsTyped host own (.twoArgs name label₁ label₂ f)
  | unaryOp {α β : Type} [HostType α] [HostType β] [Represents host α] [Represents host β]
    {op : String} {f : α → β} : IsTyped host own (.unaryOp op f)
  | binaryOp {α β γ : Type} [HostType α] [HostType β] [HostType γ] [Represents host α]
    [Represents host β] [Represents host γ] {op : String} {f : α → β → γ} :
    IsTyped host own (.binaryOp op f)
  | fallibleBinaryOp {α β γ : Type} [HostType α] [HostType β] [HostType γ] [Represents host α]
    [Represents host β] [Represents host γ] {op : String} {f : α → β → Except RuntimeError γ} :
    (∀ a b e, f a b = .error e → own e) → IsTyped host own (.fallibleBinaryOp op f)

section Typed

variable {host : HostValues} {types : TypeTable} {α β γ : Type} [HostType α] [HostType β]
  [HostType γ] [Represents host α] [Represents host β] [Represents host γ]
  {bad : RuntimeError → Prop}

/-- An argument of the right type is read. -/
theorem argument_ends {fn : String} {args : List Value} {i : Nat} {t : TypeId} {v : Value}
    (known : HostType.typeName α ∈ types.builtins)
    (resolved : types.names.resolve? (HostType.typeName α) = some t) (given : args[i]? = some v)
    (typed : v.HasType host types t) :
    (Builtin.argument α fn args i).Ends (fun _ => True) bad := by
  obtain ⟨a, read⟩ := Represents.reads v ((Value.hasType_of_resolve? known resolved).1 typed)
  unfold Builtin.argument
  exact Outcome.ends_ofOption ⟨a, by rw [given]; exact read, trivial⟩

/-- A typed builtin of one argument reads a value of the right type, and what it returns is
written as a value of its return type. -/
theorem oneArg_honours {name label : String} {f : α → Outcome RuntimeError β}
    (known : ∀ n ∈ (Builtin.oneArg name label f).typeNames, n ∈ types.builtins)
    (ends : ∀ a, (f a).Ends (fun _ => True) bad) :
    (Builtin.oneArg name label f).Honours host types bad := by
  simp only [Builtin.typeNames, Builtin.oneArg, List.map_cons, List.map_nil,
    List.forall_mem_cons] at known
  obtain ⟨knownResult, knownArg, _⟩ := known
  intro s signature vs fit
  obtain ⟨p, _, ⟨_, first⟩, none, params⟩ := List.forall₂_cons_left_iff.1 signature.params
  cases List.forall₂_nil_left_iff.1 none
  simp only [Signature.paramTypes, params, List.map_cons, List.map_nil] at fit
  obtain ⟨v, _, typed, _, rfl⟩ := List.forall₂_cons_right_iff.1 fit
  apply (argument_ends knownArg first rfl typed).bind
  intro a _
  apply (ends a).bind
  intro r _
  exact (Value.hasType_of_resolve? knownResult signature.returns).2 (Represents.writes r)

/-- A typed builtin of two arguments reads values of the right types, and what it returns is
written as a value of its return type. -/
theorem twoArgs_honours {name label₁ label₂ : String} {f : α → β → Outcome RuntimeError γ}
    (known : ∀ n ∈ (Builtin.twoArgs name label₁ label₂ f).typeNames, n ∈ types.builtins)
    (ends : ∀ a b, (f a b).Ends (fun _ => True) bad) :
    (Builtin.twoArgs name label₁ label₂ f).Honours host types bad := by
  simp only [Builtin.typeNames, Builtin.twoArgs, List.map_cons, List.map_nil,
    List.forall_mem_cons] at known
  obtain ⟨knownResult, knownFirst, knownSecond, _⟩ := known
  intro s signature vs fit
  obtain ⟨p, _, ⟨_, first⟩, others, params⟩ := List.forall₂_cons_left_iff.1 signature.params
  obtain ⟨q, _, ⟨_, second⟩, none, rfl⟩ := List.forall₂_cons_left_iff.1 others
  cases List.forall₂_nil_left_iff.1 none
  simp only [Signature.paramTypes, params, List.map_cons, List.map_nil] at fit
  obtain ⟨v, _, typed, others, rfl⟩ := List.forall₂_cons_right_iff.1 fit
  obtain ⟨w, _, typed', _, rfl⟩ := List.forall₂_cons_right_iff.1 others
  apply (argument_ends knownFirst first rfl typed).bind
  intro a _
  apply (argument_ends knownSecond second rfl typed').bind
  intro b _
  apply (ends a b).bind
  intro r _
  exact (Value.hasType_of_resolve? knownResult signature.returns).2 (Represents.writes r)

/-- A typed builtin keeps to its signature if its types are builtin ones. -/
theorem Builtin.IsTyped.honours {b : Builtin} (typed : b.IsTyped host bad)
    (known : ∀ n ∈ b.typeNames, n ∈ types.builtins) : b.Honours host types bad := by
  cases typed with
  | oneArg ends => exact oneArg_honours known ends
  | twoArgs ends => exact twoArgs_honours known ends
  | unaryOp => exact oneArg_honours known fun _ => trivial
  | binaryOp => exact twoArgs_honours known fun _ _ => trivial
  | @fallibleBinaryOp α β γ _ _ _ _ _ _ op f errors =>
    apply twoArgs_honours known
    intro a b
    exact Outcome.ends_iff.2 ⟨fun _ _ => trivial, fun e failed => errors a b e failed⟩

end Typed

/-! ## Standard builtins -/

/-- A host type among the standard ones whose values are those of its builtin
type. -/
class StandardType (α : Type) [HostType α] : Prop where
  known : HostType.typeName α ∈ Builtins.standard.types
  writes : ∀ a : α, (HostType.toValue a).hostTypeName? = some (HostType.typeName α)
  reads : ∀ v : Value, v.hostTypeName? = some (HostType.typeName α) →
    ∃ a : α, HostType.ofValue? v = some a

instance : StandardType Int64 where
  known := by decide
  writes _ := rfl
  reads v typed := by
    cases v with
    | int n => exact ⟨n, rfl⟩
    | _ => simp [Value.hostTypeName?, HostType.typeName] at typed

instance : StandardType String where
  known := by decide
  writes _ := rfl
  reads v typed := by
    cases v with
    | str s => exact ⟨s, rfl⟩
    | _ => simp [Value.hostTypeName?, HostType.typeName] at typed

instance : StandardType Bool where
  known := by decide
  writes _ := rfl
  reads v typed := by
    cases v with
    | bool b => exact ⟨b, rfl⟩
    | _ => simp [Value.hostTypeName?, HostType.typeName] at typed

instance : StandardType Unit where
  known := by decide
  writes _ := rfl
  reads v typed := by
    cases v with
    | void => exact ⟨(), rfl⟩
    | _ => simp [Value.hostTypeName?, HostType.typeName] at typed

instance {α : Type} [HostType α] [StandardType α] : Represents .standard α :=
  ⟨StandardType.writes, StandardType.reads⟩

/-- Every standard builtin is made from a function on host values, and only the quotient raises
an error of its own. -/
theorem standardFns_typed :
    ∀ b ∈ standardFns, b.IsTyped .standard (· = .divisionByZero) := by
  have divides : ∀ a b e, quotient a b = .error e → e = .divisionByZero := by
    intro a b e failed
    unfold quotient at failed
    split at failed
    · cases failed
      rfl
    · cases failed
  simp only [standardFns, List.forall_mem_cons]
  refine ⟨.binaryOp, .binaryOp, .binaryOp, .fallibleBinaryOp divides, .binaryOp, .binaryOp,
    .binaryOp, .unaryOp, .unaryOp, .binaryOp, .binaryOp, .binaryOp, .binaryOp,
    .oneArg fun _ => trivial, .oneArg fun _ => trivial, List.forall_mem_nil _⟩

/-- The standard builtins keep to their signatures, and raise nothing but a
division by zero. -/
theorem standardFns_honour {types : TypeTable}
    (builtins : types.builtins = Builtins.standard.types) :
    ∀ b ∈ standardFns, b.Honours .standard types (· = .divisionByZero) := by
  have known : ∀ b ∈ standardFns, ∀ n ∈ b.typeNames, n ∈ types.builtins := by
    rw [builtins]
    decide
  intro b mem
  exact (standardFns_typed b mem).honours (known b mem)

/-! ## Programs -/

namespace Checked

/-- A program whose functions are well typed and are what its table of functions
says. -/
structure Program.WellTyped (p : Program) (g : Globals) : Prop where
  types : g.types = p.types
  builtins : ∀ i s, (.builtin i, s) ∈ g.fns →
    ∃ b, p.builtins[i]? = some b ∧ HostSignatureFor g.types.names b s
  users : ∀ i s, (.user i, s) ∈ g.fns → ∃ f, p.fns[i]? = some f ∧ f.signature = s
  fns : ∀ f ∈ p.fns, f.WellTyped g

/-- A call that ends badly is nested too deep or ends with an allowed error. -/
def Halt.In (bad : RuntimeError → Prop) : Halt → Prop
  | .tooDeep => True
  | .error e => bad e

/-- A builtin of the table is called under its number with as many arguments as it takes, so the
call ends as its signature says. -/
theorem Program.WellTyped.invokeBuiltin_ends {p : Program} {g : Globals} {host : HostValues}
    {bad : RuntimeError → Prop} (typed : p.WellTyped g)
    (honours : ∀ b ∈ p.builtins, b.Honours host g.types bad) {i : Nat} {s : Signature}
    (entry : (.builtin i, s) ∈ g.fns) {vs : List Value}
    (fit : List.Forall₂ (·.HasType host g.types) vs s.paramTypes) :
    (p.invokeBuiltin i vs).Ends (·.HasType host g.types s.returnType) (Halt.In bad) := by
  obtain ⟨b, found, signature⟩ := typed.builtins i s entry
  have arity : vs.length = b.arity := by
    have params := signature.params.length_eq
    have values := fit.length_eq
    rw [Signature.paramTypes, List.length_map] at values
    exact values.trans params.symm
  unfold Program.invokeBuiltin
  rw [found]
  refine Outcome.Ends.mapError ?_
  unfold Builtin.call
  rw [if_pos arity]
  exact honours b (List.mem_of_getElem? found) s signature vs fit

/-- Calls of functions of a well-typed program end with values of their return
types, by induction on how deep calls may be nested. -/
theorem Program.WellTyped.invoke_sound {p : Program} {g : Globals} {host : HostValues}
    {bad : RuntimeError → Prop} (typed : p.WellTyped g) (literals : Literals host g.types)
    (honours : ∀ b ∈ p.builtins, b.Honours host g.types bad) (depth : Nat) :
    Sound host g (Halt.In bad) (p.invoke depth) := by
  induction depth with
  | zero =>
    intro f s entry vs fit
    cases f with
    | builtin i => exact typed.invokeBuiltin_ends honours entry fit
    | user i => trivial
  | succ depth ih =>
    intro f s entry vs fit
    cases f with
    | builtin i => exact typed.invokeBuiltin_ends honours entry fit
    | user i =>
      obtain ⟨f, found, rfl⟩ := typed.users i s entry
      rw [Program.invoke, found]
      exact (typed.fns f (List.mem_of_getElem? found)).run_ends literals ih fit

/-- Whenever a function of the program ends on values of its parameter types, it
ends with a value of its return type or with an allowed error. -/
def Program.SoundFor (p : Program) (host : HostValues) (bad : RuntimeError → Prop) : Prop :=
  ∀ f ∈ p.fns, ∀ args, List.Forall₂ (·.HasType host p.types) args f.signature.paramTypes →
    ∀ o, p.Evaluates f args o → o.Ends (·.HasType host p.types f.signature.returnType) bad

/-- Well-typed programs are sound: no run goes wrong but by an error that a builtin raises. -/
theorem Program.WellTyped.soundFor {p : Program} {g : Globals} {host : HostValues}
    {bad : RuntimeError → Prop} (typed : p.WellTyped g) (literals : Literals host g.types)
    (honours : ∀ b ∈ p.builtins, b.Honours host g.types bad) : p.SoundFor host bad := by
  intro f mem args fit o evaluates
  obtain ⟨depth, ran⟩ := evaluates
  rw [← typed.types] at fit ⊢
  have ends := (typed.fns f mem).run_ends literals
    (typed.invoke_sound literals honours depth) fit
  rw [← Program.evaluate, ran] at ends
  rcases o with ⟨printed, result⟩
  cases result with
  | ok v => exact ends
  | error e => exact ends

end Checked

/-! ## Accepted programs -/

namespace Check

variable {p : Syntax.Program} {host : Builtins} {a : Accepted} {types : TypeTable}
  {builtins users : List Signature}

theorem Tables.literals (tables : Tables p host types builtins users) (values : HostValues) :
    Checked.Literals values types := by
  obtain ⟨void, int, string⟩ := tables.needed
  rw [← tables.builtinTypes] at void int string
  exact ⟨fun n => (Value.hasType_of_resolve? int tables.int).2 (values.int n),
    fun s => (Value.hasType_of_resolve? string tables.string).2 (values.string s),
    (Value.hasType_of_resolve? void tables.void).2 values.void⟩

/-- Checking establishes that a program is well typed, against tables that mirror
its declarations. -/
theorem check_wellTyped (accepted : p.check host = .ok a) :
    ∃ builtins users, Tables p host a.program.types builtins users ∧
      a.program.builtins = host.fns ∧
      a.program.WellTyped ⟨a.program.types, fnTable builtins users⟩ := by
  obtain ⟨types, builtins, users, fns, tables, bodies, rfl⟩ := check_eq_ok.1 accepted
  refine ⟨builtins, users, tables, rfl, rfl, ?_, ?_, ?_⟩
  · intro i s entry
    exact Aligned.getElem?_right tables.hostFns (mem_fnTable_builtin.1 entry)
  · intro i s entry
    obtain ⟨d, declared, _⟩ := Aligned.getElem?_right tables.fns (mem_fnTable_user.1 entry)
    have paired : (p.fns.zip users)[i]? = some (d, s) :=
      List.getElem?_zip_eq_some.2 ⟨declared, mem_fnTable_user.1 entry⟩
    obtain ⟨r, found, checked⟩ := Aligned.getElem?_left bodies paired
    refine ⟨r.1, ?_, (fn_wellTyped tables.fieldsDistinct checked).1⟩
    rw [List.getElem?_map, found]
    rfl
  · intro f mem
    obtain ⟨r, made, rfl⟩ := List.mem_map.1 mem
    obtain ⟨_, _, checked⟩ := Aligned.mem_right bodies made
    exact (fn_wellTyped tables.fieldsDistinct checked).2

end Check

open Check

variable {p : Syntax.Program} {host : Builtins} {a : Accepted}

/-- Type soundness: a function of an accepted program keeps to its signature as
long as the builtins keep to theirs, and then only builtins raise errors.  With the
standard builtins, the only error is a division by zero. -/
theorem Syntax.Program.check_sound (accepted : p.check host = .ok a) :
    (∀ values : HostValues,
      (∀ b ∈ host.fns, b.Honours values a.program.types fun _ => True) →
        a.program.SoundFor values fun e => ∃ b ∈ host.fns, b.Raises values a.program.types e) ∧
      (host = .standard →
        (∀ b ∈ host.fns, b.Honours .standard a.program.types (· = .divisionByZero)) ∧
          a.program.SoundFor .standard (· = .divisionByZero)) := by
  obtain ⟨builtins, users, tables, hostFns, typed⟩ := check_wellTyped accepted
  refine ⟨fun values honours => ?_, fun standard => ?_⟩
  · apply typed.soundFor (tables.literals values)
    rw [hostFns]
    intro b mem
    exact (honours b mem).raises.mono fun e raised => ⟨b, mem, raised⟩
  · subst standard
    have honours := standardFns_honour tables.builtinTypes
    refine ⟨honours, typed.soundFor (tables.literals _) ?_⟩
    rw [hostFns]
    exact honours

/-- The program

    struct Sum { all: Int, ways: Int }
    fn share(s: Sum): Int {
      let d = s.ways
      if d == 0 { return 0 } else { let s = s.all / d  return s }
      return 1
    }

in which a `let` hides a parameter of another type, and the last statement is
dropped. -/
def sharing : Syntax.Program where
  structs := [⟨named "Sum", [typed "all" "Int", typed "ways" "Int"], .builtin⟩]
  fns := [⟨named "share", [typed "s" "Sum"], some (named "Int"), .builtin, [
    .bind (named "d") none (.member (.var "s" .builtin) (named "ways") .builtin) .builtin,
    .cond (.mk (.binary (named "==") (.var "d" .builtin) (.int 0 .builtin) .builtin)
      [.ret (some (.int 0 .builtin)) .builtin]
      (.block [
        .bind (named "s") none (.binary (named "/")
          (.member (.var "s" .builtin) (named "all") .builtin) (.var "d" .builtin) .builtin)
          .builtin,
        .ret (some (.var "s" .builtin)) .builtin])
      .builtin),
    .ret (some (.int 1 .builtin)) .builtin], .builtin⟩]
where
  named (name : String) : Syntax.Ident := ⟨name, .builtin⟩
  typed (name type : String) : Syntax.Binding := ⟨named name, named type, .builtin⟩

theorem check_sound_sharing :
    ∃ a f, sharing.check .standard = .ok a ∧ a.program.fns = [f] ∧
      a.program.Evaluates f [.struct [.int 7, .int 2]] ⟨[], .ok (.int 3)⟩ ∧
      a.program.SoundFor .standard (· = .divisionByZero) := by
  refine ⟨_, _, rfl, rfl, ⟨0, rfl⟩, ?_⟩
  have sound := @Syntax.Program.check_sound sharing .standard _ rfl
  exact (sound.2 rfl).2

end NominalScript
