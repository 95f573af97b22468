import Mathlib.Data.List.Nodup
import NominalScript.Proofs.Check.Tables

/-!
# Overloads

A function is known by its name and the types of its parameters, its *key*.  In the
table of an accepted program no key comes twice, so a call has at most one function
to go to, whatever the order of the table.  The host looks functions of the script up
by comparing lengths and then types one by one; it finds the function that a call
written in the script would go to, if that is one of the script.
-/

namespace NominalScript

open Checked (Signature)

/-! ## Keys -/

namespace Checked.Signature

/-- What tells functions apart. -/
def key (s : Signature) : String × List TypeId := (s.name, s.paramTypes)

/-- Comparing lengths and then types one by one compares the lists of types. -/
theorem takes_iff {s : Signature} {types : List TypeId} :
    s.takes types = true ↔ s.paramTypes = types := by
  rcases s with ⟨name, params, returnType⟩
  induction params generalizing types with
  | nil => cases types <;> simp [takes, paramTypes]
  | cons p params ih =>
    cases types with
    | nil => simp [takes, paramTypes]
    | cons t types =>
      have rest := @ih types
      simp only [takes, paramTypes, Bool.and_eq_true, beq_iff_eq] at rest
      simp only [takes, paramTypes, List.length_cons, List.zip_cons_cons, List.all_cons,
        List.map_cons, List.cons.injEq, Bool.and_eq_true, beq_iff_eq, Nat.add_right_cancel_iff,
        ← rest]
      exact and_left_comm

theorem answers_iff {s : Signature} {name : String} {types : List TypeId} :
    s.answers name types = true ↔ s.key = (name, types) := by
  simp [answers, key]

theorem overlaps_iff {s t : Signature} : s.overlaps t = true ↔ s.key = t.key := by
  simp [overlaps, takes_iff, key]

end Checked.Signature

open Checked.Signature

/-! ## Searching a list with one match -/

section Search

variable {α : Type} {as bs : List α} {P : α → Bool}

theorem find?_eq_some_of_unique (unique : ∀ a ∈ as, ∀ b ∈ as, P a = true → P b = true → a = b)
    {a : α} : as.find? P = some a ↔ a ∈ as ∧ P a = true := by
  refine ⟨?_, ?_⟩
  · intro found
    exact ⟨List.mem_of_find?_eq_some found, List.find?_some found⟩
  · intro ⟨mem, matches_⟩
    cases found : as.find? P with
    | none => exact absurd matches_ (by simpa using List.find?_eq_none.1 found a mem)
    | some b =>
      rw [unique b (List.mem_of_find?_eq_some found) a mem (List.find?_some found) matches_]

theorem find?_eq_of_perm (unique : ∀ a ∈ as, ∀ b ∈ as, P a = true → P b = true → a = b)
    (reordered : bs.Perm as) : bs.find? P = as.find? P := by
  have unique' : ∀ a ∈ bs, ∀ b ∈ bs, P a = true → P b = true → a = b := by
    intro a mem b mem'
    exact unique a (reordered.mem_iff.1 mem) b (reordered.mem_iff.1 mem')
  ext a
  rw [find?_eq_some_of_unique unique, find?_eq_some_of_unique unique', reordered.mem_iff]

end Search

/-! ## Tables without a repeated key -/

namespace Check

variable {types : TypeTable} {table table' : List (FnId × Signature)} {name : String}
  {args : List TypeId} {span : Span}

theorem apart_nil_iff {sigs : List Signature} : Apart [] sigs ↔ (sigs.map key).Nodup := by
  rw [Apart, List.Nodup, List.pairwise_map]
  simp [← overlaps_iff]

theorem map_snd_fnTable (builtins users : List Signature) :
    (fnTable builtins users).map Prod.snd = builtins ++ users := by
  simp [fnTable, Function.comp_def]

theorem nodup_keys_fnTable {builtins users : List Signature}
    (distinct : ((builtins ++ users).map key).Nodup) :
    ((fnTable builtins users).map fun f => f.2.key).Nodup := by
  rw [← map_snd_fnTable, List.map_map] at distinct
  exact distinct

/-- No call is ambiguous: no two entries overlap, a call has at most one entry to go
to, and it goes there, or fails, in any order of the table. -/
structure Unambiguous (table : List (FnId × Signature)) : Prop where
  apart : ∀ (i j : Nat) (f f' : FnId × Signature), i ≠ j → table[i]? = some f →
    table[j]? = some f' → f.2.overlaps f'.2 = false
  atMostOne : ∀ name args, table.countP (fun f => f.2.answers name args) ≤ 1
  anyOrder : ∀ types table' name args span, table'.Perm table →
    resolveFn ⟨types, table'⟩ name args span = resolveFn ⟨types, table⟩ name args span

/-- Among entries with different keys, a key stands for one. -/
theorem eq_of_answers (distinct : (table.map fun f => f.2.key).Nodup) :
    ∀ f ∈ table, ∀ f' ∈ table, f.2.answers name args = true → f'.2.answers name args = true →
      f = f' := by
  intro f mem f' mem' answers answers'
  refine List.inj_on_of_nodup_map distinct mem mem' ?_
  rw [answers_iff.1 answers, answers_iff.1 answers']

theorem countP_answers_le_one (distinct : (table.map fun f => f.2.key).Nodup) :
    table.countP (fun f => f.2.answers name args) ≤ 1 := by
  have counted : table.countP (fun f => f.2.answers name args) =
      (table.map fun f => f.2.key).count (name, args) := by
    rw [List.count, List.countP_map]
    refine List.countP_congr fun f _ => ?_
    rw [answers_iff, Function.comp_apply, beq_iff_eq]
  rw [counted]
  exact List.nodup_iff_count_le_one.1 distinct _

theorem resolveFn_eq_of_perm (distinct : (table.map fun f => f.2.key).Nodup)
    (reordered : table'.Perm table) :
    resolveFn ⟨types, table'⟩ name args span = resolveFn ⟨types, table⟩ name args span := by
  unfold resolveFn
  dsimp only
  rw [find?_eq_of_perm (eq_of_answers distinct) reordered, reordered.countP_eq]

theorem unambiguous_of_nodup (distinct : (table.map fun f => f.2.key).Nodup) :
    Unambiguous table where
  apart i j f f' differ first second := by
    rw [← Bool.not_eq_true, overlaps_iff]
    intro same
    refine differ ((List.getElem?_inj ?_ distinct).1 ?_)
    · exact (List.length_map _).symm ▸ (List.getElem?_eq_some_iff.1 first).1
    · rw [List.getElem?_map, List.getElem?_map, first, second, Option.map_some, Option.map_some,
        same]
  atMostOne name args := countP_answers_le_one distinct
  anyOrder types table' name args span := resolveFn_eq_of_perm distinct

/-- A call goes to the entry with its key. -/
theorem resolveFn_eq_ok (distinct : (table.map fun f => f.2.key).Nodup) {id : FnId} {t : TypeId} :
    resolveFn ⟨types, table⟩ name args span = .ok (id, t) ↔
      ∃ s, (id, s) ∈ table ∧ s.answers name args = true ∧ t = s.returnType := by
  have chosen : ∀ {f}, (table.find? fun f => f.2.answers name args) = some f ↔
      f ∈ table ∧ f.2.answers name args = true :=
    find?_eq_some_of_unique (eq_of_answers distinct)
  unfold resolveFn
  refine ⟨?_, ?_⟩
  · intro resolved
    split at resolved
    · next f found =>
      cases resolved
      obtain ⟨mem, answers⟩ := chosen.1 found
      exact ⟨f.2, mem, answers, rfl⟩
    · cases resolved
  · intro parts
    obtain ⟨s, mem, answers, rfl⟩ := parts
    dsimp only
    rw [chosen.2 ⟨mem, answers⟩]

/-! ## The two lookups -/

/-- The lookup of the host finds a function of the script where a call would go to it,
and nothing where a call would fail or go to a builtin. -/
structure LookupsAgree (program : Checked.Program) (g : Globals) : Prop where
  user : ∀ name params span i, (∃ f, program.fnNamed? name params = some (f, i)) ↔
    ∃ t, resolveFn g name params span = .ok (.user i, t)
  none : ∀ name params span, program.fnNamed? name params = none ↔
    (∃ es, resolveFn g name params span = .error es) ∨
      ∃ i t, resolveFn g name params span = .ok (.builtin i, t)
  entry : ∀ name params f i, program.fnNamed? name params = some (f, i) → program.fns[i]? = some f

/-- With different keys, the function found by name and types is the one that answers to them,
wherever it stands. -/
theorem fnNamed?_eq_some {program : Checked.Program}
    (distinct : (program.fns.map fun f => f.signature.key).Nodup) {f : Checked.Fn} {i : Nat} :
    program.fnNamed? name args = some (f, i) ↔
      program.fns[i]? = some f ∧ f.signature.answers name args = true := by
  have same : ∀ s : Signature, (s.name == name && s.takes args) = s.answers name args := by
    intro s
    rw [Bool.eq_iff_iff, answers_iff, Bool.and_eq_true, takes_iff, beq_iff_eq, key, Prod.mk.injEq]
  unfold Checked.Program.fnNamed?
  simp only [same]
  rw [find?_eq_some_of_unique, List.mem_zipIdx_iff_getElem?]
  rintro ⟨f, i⟩ mem ⟨f', j⟩ mem' answers answers'
  rw [List.mem_zipIdx_iff_getElem?] at mem mem'
  rw [answers_iff] at answers answers'
  have index : i = j := by
    refine (List.getElem?_inj ?_ distinct).1 ?_
    · exact (List.length_map _).symm ▸ (List.getElem?_eq_some_iff.1 mem).1
    · rw [List.getElem?_map, List.getElem?_map, mem, mem', Option.map_some, Option.map_some,
        answers, answers']
  subst index
  cases mem.symm.trans mem'
  rfl

section

variable {program : Checked.Program} {builtins : List Signature}

theorem nodup_keys_fns
    (distinct : ((builtins ++ program.fns.map Checked.Fn.signature).map key).Nodup) :
    (program.fns.map fun f => f.signature.key).Nodup := by
  rw [List.map_append, List.map_map] at distinct
  exact (List.nodup_append.1 distinct).2.1

/-- The host finds a function of the script just where a call would go to it. -/
theorem exists_fnNamed?_iff
    (distinct : ((builtins ++ program.fns.map Checked.Fn.signature).map key).Nodup) (i : Nat) :
    (∃ f, program.fnNamed? name args = some (f, i)) ↔
      ∃ t, resolveFn ⟨types, fnTable builtins (program.fns.map Checked.Fn.signature)⟩ name args
        span = .ok (.user i, t) := by
  have inTable := nodup_keys_fnTable distinct
  simp only [fnNamed?_eq_some (nodup_keys_fns distinct), resolveFn_eq_ok inTable,
    mem_fnTable_user, List.getElem?_map, Option.map_eq_some_iff]
  refine ⟨?_, ?_⟩
  · rintro ⟨f, listed, answers⟩
    exact ⟨f.signature.returnType, f.signature, ⟨f, listed, rfl⟩, answers, rfl⟩
  · rintro ⟨_, _, ⟨f, listed, rfl⟩, answers, _⟩
    exact ⟨f, listed, answers⟩

/-- Checking looks among the signatures of builtins and functions, a host among the functions of
the program: each finds what the other does. -/
theorem lookupsAgree
    (distinct : ((builtins ++ program.fns.map Checked.Fn.signature).map key).Nodup) :
    LookupsAgree program ⟨types, fnTable builtins (program.fns.map Checked.Fn.signature)⟩ := by
  refine ⟨fun name params span i => exists_fnNamed?_iff distinct i, fun name params span => ?_,
    fun name params f i found => ?_⟩
  · rw [Option.eq_none_iff_forall_ne_some]
    refine ⟨?_, ?_⟩
    · intro missing
      cases resolved : resolveFn ⟨types, fnTable builtins (program.fns.map Checked.Fn.signature)⟩
          name params span with
      | error es => exact .inl ⟨es, rfl⟩
      | ok chosen =>
        rcases chosen with ⟨id, t⟩
        cases id with
        | builtin i => exact .inr ⟨i, t, rfl⟩
        | user i =>
          obtain ⟨f, found⟩ := (exists_fnNamed?_iff distinct i).2 ⟨t, resolved⟩
          exact absurd found (missing (f, i))
    · intro elsewhere found same
      obtain ⟨t, resolved⟩ := (exists_fnNamed?_iff distinct found.2).1 ⟨found.1, same⟩
      rcases elsewhere with ⟨es, failed⟩ | ⟨i, u, builtin⟩
      · cases failed.symm.trans resolved
      · cases builtin.symm.trans resolved
  · exact ((fnNamed?_eq_some (nodup_keys_fns distinct)).1 found).1

end

end Check

open Check

/-- Overloads of an accepted program are unambiguous, and the host and the calls of the
script find the same functions.  Function `i` has the signature of declaration `i`. -/
theorem Syntax.Program.check_overloads {p : Syntax.Program} {host : Builtins} {a : Accepted}
    (accepted : p.check host = .ok a) :
    ∃ builtins users, builtinSignatures a.program.types host.fns = .ok builtins ∧
      signaturesFrom a.program.types builtins p.fns = .ok users ∧
      Unambiguous (fnTable builtins users) ∧
      LookupsAgree a.program ⟨a.program.types, fnTable builtins users⟩ ∧
      List.Forall₂ (fun d f => declaredSignature a.program.types d = .ok f.signature)
        p.fns a.program.fns := by
  obtain ⟨types, builtins, users, fns, tables, bodies, rfl⟩ := check_eq_ok.1 accepted
  obtain ⟨_, _, madeBuiltins, madeUsers⟩ := tables_iff.1 tables
  have signatures : (fns.map Prod.fst).map Checked.Fn.signature = users := by
    have each := Aligned.map_eq_map (f := Prod.snd) (g := fun r => r.1.signature) bodies
      fun f r checked => (fn_signature checked).symm
    rw [List.map_snd_zip (Nat.le_of_eq tables.fns.length_eq.symm)] at each
    rw [each, List.map_map]
    rfl
  have distinct : ((builtins ++ users).map key).Nodup := apart_nil_iff.1 tables.apart
  refine ⟨builtins, users, madeBuiltins, madeUsers, unambiguous_of_nodup ?_, ?_, ?_⟩
  · rw [← map_snd_fnTable, List.map_map] at distinct
    exact distinct
  · subst signatures
    exact lookupsAgree distinct
  · rw [List.forall₂_map_right_iff]
    refine Aligned.imp_mem (Aligned.through_zip tables.fns bodies) fun d mem r made => ?_
    obtain ⟨s, declared, checked⟩ := made
    rw [fn_signature checked]
    exact (declaredSignature_eq_ok tables.void).2 ⟨tables.params d mem, declared⟩

/-- The program

    fn pick(n: Int) -> Int { return n }
    fn pick(s: String) -> Int { return pick(1) }

with two functions of one name. -/
def picking : Syntax.Program where
  structs := []
  fns := [
    ⟨named "pick", [typed "n" "Int"], some (named "Int"), .builtin,
      [.ret (some (.var "n" .builtin)) .builtin], .builtin⟩,
    ⟨named "pick", [typed "s" "String"], some (named "Int"), .builtin,
      [.ret (some (.call (named "pick") [.int 1 .builtin] .builtin)) .builtin], .builtin⟩]
where
  named (name : String) : Syntax.Ident := ⟨name, .builtin⟩
  typed (name type : String) : Syntax.Binding := ⟨named name, named type, .builtin⟩

theorem check_overloads_picking :
    ∃ a table, picking.check .standard = .ok a ∧ Unambiguous table ∧
      LookupsAgree a.program ⟨a.program.types, table⟩ ∧
      (a.program.fnNamed? "pick" [a.program.types.string]).map Prod.snd = some 1 ∧
      (a.program.fnNamed? "+" [a.program.types.int, a.program.types.int]).map Prod.snd = none := by
  obtain ⟨builtins, users, _, _, unambiguous, agree, _⟩ :=
    @Syntax.Program.check_overloads picking .standard _ rfl
  exact ⟨_, _, rfl, unambiguous, agree, rfl, rfl⟩

end NominalScript
