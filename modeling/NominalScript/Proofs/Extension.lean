import NominalScript.Proofs.Check.Renumbering
import NominalScript.Proofs.Soundness

/-!
# Adding functions

A program and its host may both be given further functions.  As long as no two functions
can be taken for each other, nothing changes for those that were there: the new entries
stand in the middle of the table that calls are resolved in, but a call that had a
function to go to still has that one and no other, and numbers of old functions stay as
they are.  So each old function is checked to what it was checked to
(`fn_extended`), it still calls old functions only, and by induction on how deep calls
are nested it runs as before (`Checked.Program.WellTyped.evaluate_extended`).
-/

namespace NominalScript

open Syntax Check
open Checked (Signature)

/-! ## Numbers that stay -/

namespace Renumbering

/-- All numbers stay as they are. -/
def keep : Renumbering := ⟨id, id⟩

@[simp]
theorem keep_type (t : TypeId) : keep.type t = t := by
  cases t <;> rfl

@[simp]
theorem keep_fnId (f : FnId) : keep.fnId f = f := by
  cases f <;> rfl

@[simp]
theorem keep_field (f : Field) : keep.field f = f := by
  simp [field]

theorem keep_fields (fs : List Field) : fs.map keep.field = fs := by
  simp [List.map_congr_left fun f (_ : f ∈ fs) => keep_field f]

@[simp]
theorem keep_struct (s : StructType) : keep.struct s = s := by
  rw [struct, keep_fields]

@[simp]
theorem keep_signature (s : Signature) : keep.signature s = s := by
  rw [signature, keep_fields, keep_type]

mutual

theorem keep_expr : ∀ e : Checked.Expr, keep.expr e = e
  | .const v t => by rw [expr, keep_type]
  | .call f args t => by rw [expr, keep_fnId, keep_exprs args, keep_type]
  | .slot i t => by rw [expr, keep_type]
  | .init i fields t => by
    rw [expr, keep_exprs fields, keep_type]
    rfl
  | .field base i t => by rw [expr, keep_expr base, keep_type]

theorem keep_exprs : ∀ es : List Checked.Expr, keep.exprs es = es
  | [] => rfl
  | e :: es => by rw [exprs, keep_expr e, keep_exprs es]

end

mutual

theorem keep_stmt : ∀ s : Checked.Stmt, keep.stmt s = s
  | .expr e => by rw [stmt, keep_expr]
  | .cond c => by rw [stmt, keep_chain c]
  | .ret none => rfl
  | .ret (some e) => by rw [stmt, Option.map_some, keep_expr]
  | .bind i e => by rw [stmt, keep_expr]

theorem keep_stmts : ∀ body : List Checked.Stmt, keep.stmts body = body
  | [] => rfl
  | s :: rest => by rw [stmts, keep_stmt s, keep_stmts rest]

theorem keep_chain : ∀ c : Checked.Chain, keep.chain c = c
  | .nothing => rfl
  | .otherwise body => by rw [chain, keep_stmts body]
  | .branch c body rest => by rw [chain, keep_expr, keep_stmts body, keep_chain rest]

end

@[simp]
theorem keep_fn (f : Checked.Fn) : keep.fn f = f := by
  rw [fn, keep_signature, keep_stmts]

end Renumbering

/-! ## Running code that calls functions of a table -/

namespace Checked

/-- Calls of the functions in a table do the same. -/
def Invoke.SameOn (table : List (FnId × Signature)) (invoke invoke' : Invoke) : Prop :=
  ∀ f s, (f, s) ∈ table → ∀ vs, invoke' f vs = invoke f vs

section Run

variable {F : Frame} {invoke invoke' : Invoke}

theorem Expr.evalAll_congr {slots : List Value} {es : List Expr}
    (each : ∀ e ∈ es, e.eval invoke' slots = e.eval invoke slots) :
    Expr.evalAll invoke' slots es = Expr.evalAll invoke slots es := by
  induction es with
  | nil => rfl
  | cons e es ih =>
    obtain ⟨first, rest⟩ := List.forall_mem_cons.1 each
    rw [Expr.evalAll, Expr.evalAll, first, ih rest]

/-- A well-typed expression calls functions of the table only, with any arguments. -/
theorem Expr.WellTyped.eval_congr {live : List Nat} {e : Expr} (typed : e.WellTyped F live)
    (same : invoke.SameOn F.globals.fns invoke') (slots : List Value) :
    e.eval invoke' slots = e.eval invoke slots := by
  induction typed with
  | int n => rfl
  | str s => rfl
  | call entry _ _ args =>
    rw [Expr.eval, Expr.eval, Expr.evalAll_congr args]
    simp only [same _ _ entry]
  | slot _ _ => rfl
  | init _ _ _ values => rw [Expr.eval, Expr.eval, Expr.evalAll_congr values]
  | field _ _ _ base => rw [Expr.eval, Expr.eval, base]

mutual

/-- A well-typed statement calls functions of the table only, so it runs alike where these calls
do the same. -/
theorem Stmt.exec_congr (same : invoke.SameOn F.globals.fns invoke') :
    ∀ (s : Stmt) {live : List Nat} (slots : List Value), s.WellTyped F live →
      s.exec invoke' slots = s.exec invoke slots
  | .expr e, live, slots, typed => by
    rw [Stmt.WellTyped] at typed
    rw [Stmt.exec, Stmt.exec, typed.eval_congr same]
  | .cond chain, live, slots, typed => by
    rw [Stmt.WellTyped] at typed
    rw [Stmt.exec, Stmt.exec, Chain.exec_congr same chain slots typed]
  | .ret (some e), live, slots, typed => by
    rw [Stmt.WellTyped] at typed
    rw [Stmt.exec, Stmt.exec, typed.1.eval_congr same]
  | .ret none, live, slots, typed => rfl
  | .bind i e, live, slots, typed => by
    rw [Stmt.WellTyped] at typed
    rw [Stmt.exec, Stmt.exec, typed.1.eval_congr same]

/-- A well-typed block runs alike where the functions of the table do the same. -/
theorem Stmt.execAll_congr (same : invoke.SameOn F.globals.fns invoke') :
    ∀ (body : List Stmt) {live : List Nat} (slots : List Value), Stmt.AllWellTyped F live body →
      Stmt.execAll invoke' body slots = Stmt.execAll invoke body slots
  | [], live, slots, typed => rfl
  | s :: rest, live, slots, typed => by
    rw [Stmt.AllWellTyped] at typed
    rw [Stmt.execAll, Stmt.execAll, Stmt.exec_congr same s slots typed.1]
    congr 1
    funext flow
    cases flow with
    | onward slots' => exact Stmt.execAll_congr same rest slots' typed.2
    | returned v => rfl

/-- A well-typed chain runs alike where the functions of the table do the same. -/
theorem Chain.exec_congr (same : invoke.SameOn F.globals.fns invoke') :
    ∀ (chain : Chain) {live : List Nat} (slots : List Value), chain.WellTyped F live →
      chain.exec invoke' slots = chain.exec invoke slots
  | .nothing, live, slots, typed => rfl
  | .otherwise body, live, slots, typed => by
    rw [Chain.WellTyped] at typed
    rw [Chain.exec, Chain.exec, Stmt.execAll_congr same body slots typed]
  | .branch c body rest, live, slots, typed => by
    rw [Chain.WellTyped] at typed
    obtain ⟨condition, body', rest'⟩ := typed
    rw [Chain.exec, Chain.exec, condition.1.eval_congr same,
      Stmt.execAll_congr same body slots body', Chain.exec_congr same rest slots rest']

end

/-- A well-typed function calls functions of the table only. -/
theorem Fn.WellTyped.run_congr {g : Globals} {f : Fn} (typed : f.WellTyped g)
    (same : invoke.SameOn g.fns invoke') (args : List Value) :
    f.run invoke' args = f.run invoke args := by
  obtain ⟨slots, live, _, _, _, body⟩ := typed.body
  rw [Fn.run, Fn.run, Stmt.execAll_congr same f.body (f.slots args) body]

end Run

/-! ## Programs with more functions -/

section Programs

variable {p q : Program} {g : Globals}

/-- Calls of old functions do in the program with more functions what they did. -/
theorem Program.WellTyped.invoke_extended (typed : p.WellTyped g)
    (builtins : p.builtins <+: q.builtins) (fns : p.fns <+: q.fns) (depth : Nat) :
    (p.invoke depth).SameOn g.fns (q.invoke depth) := by
  have builtin : ∀ depth i s, (.builtin i, s) ∈ g.fns → ∀ vs,
      q.invoke depth (.builtin i) vs = p.invoke depth (.builtin i) vs := by
    intro depth i s entry vs
    obtain ⟨b, found, _⟩ := typed.builtins i s entry
    simp only [invoke, invokeBuiltin, found, getElem?_of_grown builtins found]
  induction depth with
  | zero =>
    intro f s entry vs
    cases f with
    | builtin i => exact builtin 0 i s entry vs
    | user i => rfl
  | succ depth ih =>
    intro f s entry vs
    cases f with
    | builtin i => exact builtin (depth + 1) i s entry vs
    | user i =>
      obtain ⟨f, found, _⟩ := typed.users i s entry
      rw [invoke, invoke, found, getElem?_of_grown fns found]
      exact (typed.fns f (List.mem_of_getElem? found)).run_congr ih vs

theorem Program.WellTyped.evaluate_extended (typed : p.WellTyped g)
    (builtins : p.builtins <+: q.builtins) (fns : p.fns <+: q.fns) {f : Fn} (mem : f ∈ p.fns)
    (depth : Nat) (args : List Value) : q.evaluate depth f args = p.evaluate depth f args :=
  (typed.fns f mem).run_congr (typed.invoke_extended builtins fns depth) args

end Programs

end Checked

/-! ## Checking against tables with more functions -/

namespace Check

section Tables

variable {p : Syntax.Program} {host : Builtins} {types types' : TypeTable}
  {builtins users builtins' users' added declared : List Signature}
  {moreBuiltins : List Builtin} {moreFns : List FnDecl}

/-- Tables are built in one way only. -/
theorem Tables.unique (tables : Tables p host types builtins users)
    (tables' : Tables p host types' builtins' users') :
    types = types' ∧ builtins = builtins' ∧ users = users' := by
  obtain ⟨structs, hTypes, hBuiltins, hUsers⟩ := tables_iff.1 tables
  obtain ⟨structs', hTypes', hBuiltins', hUsers'⟩ := tables_iff.1 tables'
  rw [Except.ok.inj (structs.symm.trans structs')] at hTypes
  cases hTypes.symm.trans hTypes'
  cases hBuiltins.symm.trans hBuiltins'
  cases hUsers.symm.trans hUsers'
  exact ⟨rfl, rfl, rfl⟩

/-- Once its tables are built, a program is accepted when its bodies check. -/
theorem Tables.check_eq_ok (tables : Tables p host types builtins users) {a : Accepted} :
    p.check host = .ok a ↔
      ∃ fns, List.Forall₂ (fun f r => fn ⟨types, fnTable builtins users⟩ f.1 f.2 = .ok r)
          (p.fns.zip users) fns ∧
        a = ⟨⟨types, host.fns, fns.map Prod.fst⟩, fns.flatMap Prod.snd⟩ := by
  rw [Check.check_eq_ok]
  refine ⟨?_, fun ⟨fns, bodies, made⟩ => ⟨types, builtins, users, fns, tables, bodies, made⟩⟩
  intro ⟨types', builtins', users', fns, tables', bodies, made⟩
  obtain ⟨rfl, rfl, rfl⟩ := tables.unique tables'
  exact ⟨fns, bodies, made⟩

/-- The program with more functions has the tables with their signatures. -/
theorem Tables.extended (tables : Tables p host types builtins users)
    (resolved : List.Forall₂ (fun b s => builtinSignature types b = .ok s) moreBuiltins added)
    (resolved' : List.Forall₂ (fun d s => declaredSignature types d = .ok s) moreFns declared)
    (apart : (builtins ++ added ++ (users ++ declared)).Pairwise fun s t => s.overlaps t = false) :
    Tables { p with fns := p.fns ++ moreFns } { host with fns := host.fns ++ moreBuiltins } types
      (builtins ++ added) (users ++ declared) where
  needed := tables.needed
  void := tables.void
  int := tables.int
  string := tables.string
  builtinTypes := tables.builtinTypes
  structs := tables.structs
  structNames := tables.structNames
  structNew := tables.structNew
  finite := tables.finite
  hostFns := List.rel_append tables.hostFns (resolved.imp fun _ _ => builtinSignature_eq_ok.1)
  fns := List.rel_append tables.fns
    (resolved'.imp fun _ _ made => ((declaredSignature_eq_ok tables.void).1 made).2)
  params := by
    intro d mem
    rcases List.mem_append.1 mem with old | new
    · exact tables.params d old
    · obtain ⟨s, _, made⟩ := Aligned.mem_left resolved' new
      exact ((declaredSignature_eq_ok tables.void).1 made).1
  apart := ⟨nofun, apart⟩

/-- Every entry of the tables is in the larger ones, under its number. -/
theorem Tables.kept (tables : Tables p host types (builtins ++ added) (users ++ declared)) :
    Globals.Renumbered .keep ⟨types, fnTable builtins users⟩
      ⟨types, fnTable (builtins ++ added) (users ++ declared)⟩ where
  names := by simp
  structs := by
    intro i s entry
    rw [Renumbering.keep_struct]
    exact entry
  fns := by
    intro f s listed
    rw [Renumbering.keep_fnId, Renumbering.keep_signature]
    cases f with
    | builtin i =>
      exact mem_fnTable_builtin.2
        (getElem?_of_grown (List.prefix_append _ _) (mem_fnTable_builtin.1 listed))
    | user i =>
      exact mem_fnTable_user.2
        (getElem?_of_grown (List.prefix_append _ _) (mem_fnTable_user.1 listed))
  void := by simp
  int := by simp
  string := by simp
  distinct := tables.fieldsDistinct
  distinct' := tables.fieldsDistinct
  keys := nodup_keys_fnTable (apart_nil_iff.1 tables.apart)

/-- A body that checks checks to the same function, with the same warnings, against
tables with more functions. -/
theorem fn_extended (tables : Tables p host types (builtins ++ added) (users ++ declared))
    {d : FnDecl} {s : Signature} {r : Checked.Fn × List Warning}
    (checked : fn ⟨types, fnTable builtins users⟩ d s = .ok r) :
    fn ⟨types, fnTable (builtins ++ added) (users ++ declared)⟩ d s = .ok r := by
  have again := fn_renumbered tables.kept checked
  rw [Renumbering.keep_signature, Renumbering.keep_fn] at again
  exact again

/-- With the bodies of the program checked, it is accepted with more functions when the
bodies of these check. -/
theorem Tables.check_append_iff
    (tables : Tables { p with fns := p.fns ++ moreFns } host types builtins (users ++ declared))
    (length : p.fns.length = users.length) {fns : List (Checked.Fn × List Warning)}
    (checked : List.Forall₂
      (fun f r => fn ⟨types, fnTable builtins (users ++ declared)⟩ f.1 f.2 = .ok r)
      (p.fns.zip users) fns) {a : Accepted} :
    Program.check { p with fns := p.fns ++ moreFns } host = .ok a ↔
      ∃ more, List.Forall₂
          (fun f r => fn ⟨types, fnTable builtins (users ++ declared)⟩ f.1 f.2 = .ok r)
          (moreFns.zip declared) more ∧
        a = ⟨⟨types, host.fns, fns.map Prod.fst ++ more.map Prod.fst⟩,
          fns.flatMap Prod.snd ++ more.flatMap Prod.snd⟩ := by
  have zipped : (p.fns ++ moreFns).zip (users ++ declared) =
      p.fns.zip users ++ moreFns.zip declared := List.zip_append length
  simp only [← List.map_append, ← List.flatMap_append]
  rw [tables.check_eq_ok, zipped]
  refine ⟨?_, ?_⟩
  · rintro ⟨_, all, rfl⟩
    obtain ⟨old, more, rfl, first, later⟩ := Aligned.append_left_iff.1 all
    -- A body is checked to one function, so the old ones are those known already.
    have same : old = fns :=
      List.right_unique_forall₂' (fun _ _ _ here there => Except.ok.inj (here.symm.trans there))
        first checked
    exact ⟨more, later, by rw [same]⟩
  · rintro ⟨more, later, rfl⟩
    exact ⟨fns ++ more, Aligned.append_left_iff.2 ⟨fns, more, rfl, checked, later⟩, rfl⟩

end Tables

end Check

/-! ## Adding functions -/

/-- Functions are added to an accepted program, whose signatures are `builtins` and
`users`, and to its host.  If the signatures `added` and `declared` of these resolve and
no two of all signatures overlap, each function of the program is checked to what it was
checked to, with the same warnings.  So the program with more functions is accepted just
when the bodies that were added check, and the functions of the program run in it as
they did: at every depth, they give the same value or error and print the same lines. -/
theorem Syntax.Program.check_extended {p : Syntax.Program} {host : Builtins} {a : Accepted}
    {builtins users added declared : List Signature} {moreBuiltins : List Builtin}
    {moreFns : List FnDecl} (accepted : p.check host = .ok a)
    (madeBuiltins : builtinSignatures a.program.types host.fns = .ok builtins)
    (madeUsers : signaturesFrom a.program.types builtins p.fns = .ok users)
    (resolved : List.Forall₂ (fun b s => builtinSignature a.program.types b = .ok s)
      moreBuiltins added)
    (resolved' : List.Forall₂ (fun d s => declaredSignature a.program.types d = .ok s)
      moreFns declared)
    (apart : (builtins ++ added ++ (users ++ declared)).Pairwise fun s t => s.overlaps t = false) :
    let p' : Syntax.Program := { p with fns := p.fns ++ moreFns }
    let host' : Builtins := { host with fns := host.fns ++ moreBuiltins }
    let g : Globals := ⟨a.program.types, fnTable builtins users⟩
    let g' : Globals := ⟨a.program.types, fnTable (builtins ++ added) (users ++ declared)⟩
    (∃ fns, List.Forall₂ (fun f r => Check.fn g f.1 f.2 = .ok r ∧ Check.fn g' f.1 f.2 = .ok r)
        (p.fns.zip users) fns ∧
      a.program.fns = fns.map Prod.fst ∧ a.warnings = fns.flatMap Prod.snd) ∧
    (∀ a', p'.check host' = .ok a' ↔
      ∃ fns, List.Forall₂ (fun f r => Check.fn g' f.1 f.2 = .ok r) (moreFns.zip declared) fns ∧
        a' = ⟨⟨a.program.types, host.fns ++ moreBuiltins, a.program.fns ++ fns.map Prod.fst⟩,
          a.warnings ++ fns.flatMap Prod.snd⟩) ∧
    ∀ a', p'.check host' = .ok a' → ∀ f ∈ a.program.fns, ∀ depth args,
      a'.program.evaluate depth f args = a.program.evaluate depth f args := by
  intro p' host' g g'
  obtain ⟨builtins₀, users₀, tables, sameHost, typed⟩ := check_wellTyped accepted
  obtain ⟨_, _, made, made'⟩ := tables_iff.1 tables
  cases made.symm.trans madeBuiltins
  cases made'.symm.trans madeUsers
  have tables' : Tables p' host' a.program.types (builtins ++ added) (users ++ declared) :=
    tables.extended resolved resolved' apart
  obtain ⟨fns, bodies, same⟩ := tables.check_eq_ok.1 accepted
  have sameFns : a.program.fns = fns.map Prod.fst := by rw [same]
  have sameWarnings : a.warnings = fns.flatMap Prod.snd := by rw [same]
  have kept : List.Forall₂ (fun f r => Check.fn g f.1 f.2 = .ok r ∧ Check.fn g' f.1 f.2 = .ok r)
      (p.fns.zip users) fns :=
    bodies.imp fun _ _ checked => ⟨checked, fn_extended tables' checked⟩
  have program : ∀ a', p'.check host' = .ok a' ↔
      ∃ fns, List.Forall₂ (fun f r => Check.fn g' f.1 f.2 = .ok r) (moreFns.zip declared) fns ∧
        a' = ⟨⟨a.program.types, host.fns ++ moreBuiltins, a.program.fns ++ fns.map Prod.fst⟩,
          a.warnings ++ fns.flatMap Prod.snd⟩ := by
    intro a'
    rw [sameFns, sameWarnings]
    exact tables'.check_append_iff tables.fns.length_eq (kept.imp fun _ _ both => both.2)
  refine ⟨⟨fns, kept, sameFns, sameWarnings⟩, program, ?_⟩
  intro a' accepted' f mem depth args
  obtain ⟨more, _, rfl⟩ := (program a').1 accepted'
  refine typed.evaluate_extended ?_ (List.prefix_append _ _) mem depth args
  rw [sameHost]
  exact List.prefix_append _ _

/-- A builtin `pick` of two parameters. -/
def pickLess : Builtin := .binaryOp "pick" fun a b : Int64 => if a < b then a else b

/-- The function

    fn main() -> Int { return pick(pick("x"), 3) }
-/
def pickingMain : FnDecl where
  ident := picking.named "main"
  params := []
  returnType := some (picking.named "Int")
  signatureSpan := .builtin
  body := [.ret (some (.call (picking.named "pick")
    [.call (picking.named "pick") [.str "x" .builtin] .builtin, .int 3 .builtin] .builtin))
    .builtin]
  span := .builtin

/-- Two functions `pick` of the script get a builtin of the same name beside them, and a
function that calls both kinds. -/
theorem check_extended_picking :
    ∃ a a', picking.check .standard = .ok a ∧
      Syntax.Program.check ⟨[], picking.fns ++ [pickingMain]⟩
        ⟨Builtins.standard.types, standardFns ++ [pickLess]⟩ = .ok a' ∧
      a'.program.fns.map (·.signature.name) = ["pick", "pick", "main"] ∧
      (∃ f, a.program.fns[1]? = some f ∧ a'.program.fns[1]? = some f ∧
        a'.program.evaluate 1 f [.str "x"] = ⟨[], .ok (.int 1)⟩) ∧
      ∃ main, a'.program.fns[2]? = some main ∧
        a'.program.evaluate 2 main [] = ⟨[], .ok (.int 1)⟩ := by
  have extended := @Syntax.Program.check_extended picking .standard _ _ _ _ _ [pickLess]
    [pickingMain] rfl rfl rfl (.cons rfl .nil) (.cons rfl .nil) (by decide +kernel)
  obtain ⟨_, accepted, runs⟩ := extended
  have accepted' := (accepted _).2 ⟨_, .cons rfl .nil, rfl⟩
  refine ⟨_, _, rfl, accepted', rfl, ⟨_, rfl, rfl, ?_⟩, _, rfl, rfl⟩
  exact runs _ accepted' _ (List.mem_of_getElem? (i := 1) rfl) 1 [.str "x"]

end NominalScript
