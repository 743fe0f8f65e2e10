import Rebind.Syntax.Placement
/-!
Statements that can always be compiled. An expression of names, attributes, subscripts, plain calls, operators and
single comparisons fits every place. It declares nothing and opens no block, so a module of such expressions uses its
names as they are declared.
-/
namespace Rebind.Syntax

/-- Names, literals and what operators, attributes, subscripts and plain calls make of them. -/
inductive Expr.Plain : Expr → Prop
  | name : Plain (.name l x)
  | literal : Plain (.literal l v)
  | part (owner : Plain e) : Plain (.attribute l e attr)
  | subscript (owner : Plain e) (index : Plain i) : Plain (.subscript l e i)
  | call (function : Plain f) (given : ∀ e ∈ args, Plain e) : Plain (.call l f args [])
  | binary (first : Plain a) (second : Plain b) : Plain (.binary l op a b)
  | compare (first : Plain a) (second : Plain b) : Plain (.compare l a [(op, b)])

/-- A module in which nothing is declared and no block is open. -/
structure Draft.AtModule (d : Draft) : Prop where
  module : d.kind = .module
  alone : d.inner = []
  undeclared : d.names.nonlocals = []
  outside : d.targeting = false

/-- Gathering goes through in a module and leaves it as open as it was. -/
def Collects (gather : Draft → Option Draft) : Prop :=
  ∀ d : Draft, d.AtModule → ∃ d', gather d = some d' ∧ d'.AtModule

section
variable {d : Draft}

theorem Collects.andThen {first second : Draft → Option Draft} (goes : Collects first) (then_ : Collects second) :
    Collects fun d => (first d).bind second := by
  intro d open_
  obtain ⟨between, made, open'⟩ := goes d open_
  obtain ⟨last, later, done⟩ := then_ between open'
  exact ⟨last, by simp [made, later], done⟩

theorem collects_some : Collects some := fun d open_ => ⟨d, rfl, open_⟩

theorem collects_read (x : String) : Collects fun d => d.read x := by
  intro d open_
  refine ⟨{ d with names := { d.names with reads := d.known x :: d.names.reads } }, ?_, ?_⟩
  · simp [Draft.read, Draft.note, open_.outside]
  · exact ⟨open_.module, open_.alone, open_.undeclared, open_.outside⟩

theorem collects_bind (x : String) : Collects fun d => d.bind x := by
  intro d open_
  refine ⟨{ d with names := { d.names with binds := d.known x :: d.names.binds } }, ?_, ?_⟩
  · simp [Draft.bind, Draft.note, open_.outside]
  · exact ⟨open_.module, open_.alone, open_.undeclared, open_.outside⟩

theorem collects_readName (x : String) : Collects fun d => d.readName x := by
  intro d open_
  by_cases fixed : x = "__debug__"
  · exact ⟨d, by simp [Draft.readName, fixed], open_⟩
  · obtain ⟨d', read, open'⟩ := collects_read x d open_
    refine ⟨d', ?_, open'⟩
    simp [Draft.readName, fixed, read, open'.module]

/-! ### Expressions -/

theorem collects_list (items : List Expr) (each : ∀ e ∈ items, Collects e.gather) : Collects (gatherList items) := by
  induction items with
  | nil => exact collects_some
  | cons e rest ih =>
    rw [List.forall_mem_cons] at each
    exact each.1.andThen (ih each.2)

theorem Expr.Plain.collects {e : Expr} (plain : e.Plain) : Collects e.gather := by
  induction plain with
  | name => exact collects_readName _
  | literal => exact collects_some
  | part _ owner => exact owner
  | subscript _ _ owner index => exact owner.andThen index
  | call _ _ function given => exact function.andThen ((collects_list _ given).andThen collects_some)
  | binary _ _ first second => exact first.andThen second
  | compare _ _ first second => exact first.andThen (second.andThen collects_some)

theorem fitsItems_plain (items : List Expr) (place : Place) (each : ∀ e ∈ items, e.Plain ∧ e.fits place = true) :
    fitsItems items place = true := by
  induction items with
  | nil => rfl
  | cons e rest ih =>
    rw [List.forall_mem_cons] at each
    have later := ih each.2
    cases each.1.1 <;> simp [fitsItems, each.1.2, later]

theorem Expr.Plain.fits {e : Expr} (plain : e.Plain) (place : Place) : e.fits place = true := by
  induction plain with
  | name => rfl
  | literal => rfl
  | part _ owner => exact owner
  | subscript _ _ owner index => simp [Expr.fits, owner, index]
  | call _ items function given =>
    simp [Expr.fits, function, fitsItems_plain _ place fun e member => ⟨items e member, given e member⟩,
      fitsKeywords, keywordsFit]
  | binary _ _ first second => simp [Expr.fits, first, second]
  | compare _ _ first second => simp [Expr.fits, fitsComparisons, first, second]

/-! ### Statements -/

/-- A statement that only evaluates plain expressions, binds variables and branches. -/
inductive Stmt.Plain : Stmt → Prop
  | expr (value : e.Plain) : Plain (.expr r e)
  | assign (free : canBind x = true) (value : e.Plain) : Plain (.assign r [.name l x] e)
  | branch (test : e.Plain) (body : ∀ s ∈ first, Plain s) (orelse : ∀ s ∈ second, Plain s) :
      Plain (.branch r e first second)

theorem collects_body (body : List Stmt) (each : ∀ s ∈ body, Collects s.gather) : Collects (gatherBody body) := by
  induction body with
  | nil => exact collects_some
  | cons s rest ih =>
    rw [List.forall_mem_cons] at each
    exact each.1.andThen (ih each.2)

theorem Stmt.Plain.collects {s : Stmt} (plain : s.Plain) : Collects s.gather := by
  induction plain with
  | expr value => exact value.collects
  | assign _ value => exact ((collects_bind _).andThen collects_some).andThen value.collects
  | branch test _ _ body orelse =>
    exact test.collects.andThen ((collects_body _ body).andThen (collects_body _ orelse))

theorem fitsBody_plain (body : List Stmt) (place : Place) (each : ∀ s ∈ body, s.fits place = true) :
    fitsBody body place = true := by
  induction body with
  | nil => rfl
  | cons s rest ih =>
    rw [List.forall_mem_cons] at each
    simp [fitsBody, each.1, ih each.2]

theorem Stmt.Plain.fits {s : Stmt} (plain : s.Plain) (place : Place) : s.fits place = true := by
  induction plain with
  | expr value => exact value.fits place
  | assign free value => simp [Stmt.fits, Expr.targetFits, free, value.fits place]
  | branch test _ _ body orelse =>
    simp [Stmt.fits, test.fits place, fitsBody_plain _ place body, fitsBody_plain _ place orelse]

theorem moduleFits_plain (body : List Stmt) (plain : ∀ s ∈ body, s.Plain) : moduleFits body = true := by
  obtain ⟨d, gathered, open_⟩ := collects_body body (fun s member => (plain s member).collects)
    { kind := .module } ⟨rfl, rfl, rfl, rfl⟩
  rw [moduleFits, Bool.and_eq_true]
  constructor
  · simp [namesFit, moduleBlock, gathered, Draft.block, Block.resolves, open_.module, open_.alone,
      open_.undeclared, resolveAll]
  · exact fitsBody_plain body {} fun s member => (plain s member).fits {}

end
end Rebind.Syntax
