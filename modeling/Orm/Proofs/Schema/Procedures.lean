import Mathlib.Data.List.Induction
import Orm.Proofs.Data.NameMap
import Orm.Schema.Cache

/-!
# What is known of loaded procedures

Procedures that are loaded are indexed twice: the parameters of each definition by its qualified
name, and the definitions of each package by its name. The first index covers all that can be
reached, however deep; the second one covers only the packages that stand at the top
(`loaded_procedures_indexed_iff`). Of several entries with one name the last counts.
-/

namespace Orm

/-! ## The last item of a kind -/

section Last

variable {α : Type} {test : α → Prop} {items more : List α} {item other last : α}

/-- An item passes a test, and no item behind it does. -/
def IsLast (test : α → Prop) (items : List α) (item : α) : Prop :=
  test item ∧ ∃ before after, items = before ++ item :: after ∧ ∀ other ∈ after, ¬ test other

/-- The last item that passes a test is the one at the end, or one before that if it fails. -/
theorem is_last_concat_iff :
    IsLast test (items ++ [last]) item ↔
      test last ∧ item = last ∨ ¬ test last ∧ IsLast test items item := by
  constructor
  · rintro ⟨hitem, before, after, hitems, hafter⟩
    rcases List.eq_nil_or_concat' after with rfl | ⟨rest, final, rfl⟩
    · obtain ⟨rfl, hlast⟩ := List.append_inj' hitems rfl
      obtain rfl := List.singleton_inj.1 hlast
      exact .inl ⟨hitem, rfl⟩
    · have hsplit : items ++ [last] = (before ++ item :: rest) ++ [final] := by
        rw [hitems, List.append_assoc, List.cons_append]
      obtain ⟨rfl, hlast⟩ := List.append_inj' hsplit rfl
      obtain rfl := List.singleton_inj.1 hlast
      refine .inr ⟨hafter last (by simp), hitem, before, rest, rfl, fun other hother => ?_⟩
      exact hafter other (List.mem_append_left _ hother)
  · rintro (⟨hlast, rfl⟩ | ⟨hlast, hitem, before, after, rfl, hafter⟩)
    · exact ⟨hlast, items, [], rfl, nofun⟩
    · refine ⟨hitem, before, after ++ [last], by simp, fun other hother => ?_⟩
      rcases List.mem_append.1 hother with hmem | hmem
      · exact hafter other hmem
      · rwa [List.mem_singleton.1 hmem]

/-- Without items there is no last one. -/
theorem not_is_last_nil : ¬ IsLast test [] item := by
  rintro ⟨-, before, after, hnil, -⟩
  cases before <;> cases hnil

/-- The last item of a kind is one of the items. -/
theorem IsLast.mem (h : IsLast test items item) : item ∈ items := by
  obtain ⟨-, before, after, rfl, -⟩ := h
  simp

/-- There is one last item that passes a test. -/
theorem IsLast.unique (h : IsLast test items item) (hother : IsLast test items other) :
    item = other := by
  induction items using List.reverseRecOn with
  | nil => exact absurd h not_is_last_nil
  | append_singleton items last ih =>
      rw [is_last_concat_iff] at h hother
      obtain ⟨hlast, rfl⟩ | ⟨hlast, h⟩ := h
      · obtain ⟨-, rfl⟩ | ⟨hfails, -⟩ := hother
        · rfl
        · exact absurd hlast hfails
      · obtain ⟨hpasses, -⟩ | ⟨-, hother⟩ := hother
        · exact absurd hpasses hlast
        · exact ih h hother

/-- If some item passes a test, there is a last one. -/
theorem exists_is_last (h : ∃ item ∈ items, test item) : ∃ item, IsLast test items item := by
  induction items using List.reverseRecOn with
  | nil =>
      obtain ⟨_, hmem, -⟩ := h
      cases hmem
  | append_singleton items last ih =>
      simp only [is_last_concat_iff]
      by_cases hlast : test last
      · exact ⟨last, .inl ⟨hlast, rfl⟩⟩
      · obtain ⟨item, hmem, hitem⟩ := h
        rcases List.mem_append.1 hmem with hmem | hmem
        · obtain ⟨found, hfound⟩ := ih ⟨item, hmem, hitem⟩
          exact ⟨found, .inr ⟨hlast, hfound⟩⟩
        · rw [List.mem_singleton.1 hmem] at hitem
          exact absurd hitem hlast

/-- Items that fail a test do not matter behind others. -/
theorem is_last_append_iff (hmore : ∀ other ∈ more, ¬ test other) :
    IsLast test (items ++ more) item ↔ IsLast test items item := by
  induction more using List.reverseRecOn with
  | nil => rw [List.append_nil]
  | append_singleton more last ih =>
      have hlast : ¬ test last := hmore last (by simp)
      rw [← List.append_assoc, is_last_concat_iff,
        ih fun other hother => hmore other (List.mem_append_left _ hother)]
      simp [hlast]

/-- The last of the images of some items is the image of the last of them. -/
theorem is_last_map_iff {β : Type} {image : β → α} {values : List β} :
    IsLast test (values.map image) item ↔
      ∃ value, IsLast (fun value => test (image value)) values value ∧ image value = item := by
  induction values using List.reverseRecOn with
  | nil => simp [not_is_last_nil]
  | append_singleton values last ih =>
      simp only [List.map_append, List.map_singleton, is_last_concat_iff, ih]
      constructor
      · rintro (⟨hlast, rfl⟩ | ⟨hlast, value, hvalue, himage⟩)
        · exact ⟨last, .inl ⟨hlast, rfl⟩, rfl⟩
        · exact ⟨value, .inr ⟨hlast, hvalue⟩, himage⟩
      · rintro ⟨value, ⟨hlast, rfl⟩ | ⟨hlast, hvalue⟩, himage⟩
        · exact .inl ⟨hlast, himage.symm⟩
        · exact .inr ⟨hlast, value, hvalue, himage⟩

end Last

/-- Under each name the map of a list of entries has the last one of that name. -/
theorem NameMap.find_of_list_eq_some_iff {α : Type} {entries : List (String × α)} {name : String}
    {value : α} : (ofList entries).find? name = some value ↔
      IsLast (fun entry => entry.1 = name) entries (name, value) := by
  rw [find_of_list]
  induction entries using List.reverseRecOn with
  | nil => exact iff_of_false nofun not_is_last_nil
  | append_singleton entries last ih =>
      rw [List.reverse_concat, lookup, is_last_concat_iff, ← ih]
      obtain ⟨key, old⟩ := last
      by_cases hsame : key = name
      · simp [hsame, eq_comm]
      · simp [hsame]

/-! ## Packages -/

namespace ProcedureNode

/-- The packages that can be reached from a node, each with its definitions. -/
def packages : ProcedureNode → List (String × List ProcedureDefinition)
  | .root _ inner => packages inner
  | .package name definitions => [(name, definitions)]
  | .single _ | .empty => []

/-- The package that a node is itself. -/
def ownPackage? : ProcedureNode → Option (String × List ProcedureDefinition)
  | .package name definitions => some (name, definitions)
  | .root _ _ | .single _ | .empty => none

/-- From a node at most one package can be reached. -/
theorem packages_eq_of_mem {node : ProcedureNode} {package : String × List ProcedureDefinition}
    (h : package ∈ node.packages) : node.packages = [package] := by
  induction node with
  | root name inner ih => exact ih h
  | package name definitions => rw [packages, List.mem_singleton.1 h]
  | single | empty => cases h

/-- A node that is a package reaches it. -/
theorem mem_packages_of_own {node : ProcedureNode} {package : String × List ProcedureDefinition}
    (h : node.ownPackage? = some package) : package ∈ node.packages := by
  cases node with
  | package name definitions => exact List.mem_singleton.2 (Option.some.inj h).symm
  | root | single | empty => cases h

/-- A node that reaches a package is that package, or a root. -/
theorem own_or_root {node : ProcedureNode} {package : String × List ProcedureDefinition}
    (h : package ∈ node.packages) :
    node.ownPackage? = some package ∨
      ∃ root inner, node = .root root inner ∧ package ∈ inner.packages := by
  cases node with
  | package name definitions => exact .inl (congrArg some (List.mem_singleton.1 h).symm)
  | root name inner => exact .inr ⟨name, inner, rfl, h⟩
  | single | empty => cases h

section Decomposition

variable {before after : List ProcedureNode} {node : ProcedureNode} {name : String}
  {definitions : List ProcedureDefinition}

/-- If packages of some name can be reached, there is a last node that reaches one. -/
theorem exists_last_package {nodes : List ProcedureNode}
    (h : ∃ definitions, (name, definitions) ∈ nodes.flatMap packages) :
    ∃ before node after definitions, nodes = before ++ node :: after ∧
      (name, definitions) ∈ node.packages ∧
        ∀ package ∈ after.flatMap packages, package.1 ≠ name := by
  obtain ⟨definitions, hmem⟩ := h
  obtain ⟨node, hnode, hpackage⟩ := List.mem_flatMap.1 hmem
  have hreaches : ∃ node ∈ nodes, ∃ definitions, (name, definitions) ∈ node.packages :=
    ⟨node, hnode, definitions, hpackage⟩
  obtain ⟨last, ⟨found, hfound⟩, before, after, hnodes, hafter⟩ := exists_is_last hreaches
  refine ⟨before, last, after, found, hnodes, hfound, ?_⟩
  rintro ⟨other, content⟩ hother rfl
  obtain ⟨reaching, hreaching, hcontent⟩ := List.mem_flatMap.1 hother
  exact hafter reaching hreaching ⟨content, hcontent⟩

variable (hafter : ∀ package ∈ after.flatMap packages, package.1 ≠ name)

include hafter

/-- What the last such node reaches is the last package of the name that can be reached. -/
theorem is_last_reached (hnode : (name, definitions) ∈ node.packages) :
    IsLast (fun package => package.1 = name) ((before ++ node :: after).flatMap packages)
      (name, definitions) := by
  refine ⟨rfl, before.flatMap packages, after.flatMap packages, ?_, hafter⟩
  rw [List.flatMap_append, List.flatMap_cons, packages_eq_of_mem hnode, List.singleton_append]

/-- The last package of the name at the top is that node, or stands before it. -/
theorem is_last_at_top_iff {package : String × List ProcedureDefinition} :
    IsLast (fun package => package.1 = name) ((before ++ node :: after).filterMap ownPackage?)
        package ↔
      IsLast (fun package => package.1 = name)
        (before.filterMap ownPackage? ++ node.ownPackage?.toList) package := by
  have hmore : ∀ other ∈ after.filterMap ownPackage?, ¬ other.1 = name := by
    intro other hother
    obtain ⟨reaching, hreaching, hown⟩ := List.mem_filterMap.1 hother
    exact hafter other (List.mem_flatMap.2 ⟨reaching, hreaching, mem_packages_of_own hown⟩)
  have hnode : [node].filterMap ownPackage? = node.ownPackage?.toList := by
    cases node <;> rfl
  rw [List.append_cons, List.filterMap_append, is_last_append_iff hmore, List.filterMap_append,
    hnode]

omit hafter in
/-- The last packages of a name at the top are the last ones that can be reached, if and only if,
whenever a last one that can be reached stands below a root, the last one at the top before that has
the same definitions. -/
theorem last_at_top_iff_last_reached {nodes : List ProcedureNode} :
    (∀ definitions,
      IsLast (fun package => package.1 = name) (nodes.filterMap ownPackage?) (name, definitions) ↔
        IsLast (fun package => package.1 = name) (nodes.flatMap packages) (name, definitions)) ↔
      ∀ before root inner after definitions, nodes = before ++ .root root inner :: after →
        (name, definitions) ∈ inner.packages →
        (∀ package ∈ after.flatMap packages, package.1 ≠ name) →
        IsLast (fun package => package.1 = name) (before.filterMap ownPackage?)
          (name, definitions) := by
  constructor
  · rintro hsame before root inner after definitions rfl hinner hafter
    have htop := (hsame definitions).2 (is_last_reached hafter hinner)
    rw [is_last_at_top_iff hafter] at htop
    simpa [ownPackage?] using htop
  · intro hroots
    -- Some definitions are the last ones in both ways, so each last one is that.
    have hboth : (∃ definitions, (name, definitions) ∈ nodes.flatMap packages) →
        ∃ definitions,
          IsLast (fun package => package.1 = name) (nodes.filterMap ownPackage?)
              (name, definitions) ∧
            IsLast (fun package => package.1 = name) (nodes.flatMap packages)
              (name, definitions) := by
      intro hreached
      obtain ⟨before, node, after, definitions, rfl, hnode, hafter⟩ := exists_last_package hreached
      refine ⟨definitions, (is_last_at_top_iff hafter).2 ?_, is_last_reached hafter hnode⟩
      obtain hown | ⟨root, inner, rfl, hinner⟩ := own_or_root hnode
      · rw [hown]
        exact is_last_concat_iff.2 (.inl ⟨rfl, rfl⟩)
      · have hbefore := hroots before root inner after definitions rfl hinner hafter
        simpa [ownPackage?] using hbefore
    intro definitions
    constructor
    · intro htop
      obtain ⟨node, hnode, hown⟩ := List.mem_filterMap.1 htop.mem
      have hmem := List.mem_flatMap.2 ⟨node, hnode, mem_packages_of_own hown⟩
      obtain ⟨others, hothers, hreached⟩ := hboth ⟨definitions, hmem⟩
      rwa [htop.unique hothers]
    · intro hreached
      obtain ⟨others, htop, hothers⟩ := hboth ⟨definitions, hreached.mem⟩
      rwa [hreached.unique hothers]

end Decomposition

end ProcedureNode

/-! ## The indices -/

namespace SchemaCache

/-- The parameters of the definitions that can be reached are put in one after the other. -/
theorem procedure_params_learn (nodes : List ProcedureNode) :
    (empty.learnProcedures nodes).procedureParams
      = .ofList ((nodes.flatMap ProcedureNode.definitions).map
          fun definition => (definition.name.qualified, definition.params)) := by
  rw [NameMap.ofList, List.foldl_map, List.foldl_flatMap]
  rfl

/-- The packages at the top are put in one after the other. -/
theorem packages_learn (nodes : List ProcedureNode) :
    (empty.learnProcedures nodes).packages
      = .ofList (nodes.filterMap ProcedureNode.ownPackage?) := by
  rw [NameMap.ofList, List.foldl_filterMap]
  show nodes.foldl indexPackage .empty = _
  congr 1
  funext known node
  cases node <;> rfl

variable {σ ε : Type} {load : σ → Except ε (List ProcedureNode) × σ} {state : σ}

/-- An empty cache learns the procedures that are loaded. -/
theorem consult_procedures_of_load {nodes : List ProcedureNode}
    (hload : (load state).1 = .ok nodes) :
    consult procedures learnProcedures load .empty state
      = (.ok nodes, empty.learnProcedures nodes, (load state).2) := by
  rcases hanswer : load state with ⟨answer, after⟩
  rw [hanswer] at hload
  obtain rfl : answer = .ok nodes := hload
  have hunknown : procedures .empty = none := rfl
  simp only [consult, hunknown, hanswer]

/-- Procedures that are loaded into an empty cache are answered, and indexed. Under the qualified
name of every definition that can be reached, however deep, there are the parameters of the last
such definition, and under no other name are there any. Under the name of a package there are the
definitions of the last such package that stands at the top. So packages of a name are answered like
all that can be reached, the last one's definitions if the name repeats, if and only if, whenever
the last one stands below a root, the last one of the name at the top has the same definitions. -/
theorem loaded_procedures_indexed_iff {nodes : List ProcedureNode}
    (hload : (load state).1 = .ok nodes) :
    let loaded := consult procedures learnProcedures load .empty state
    let cache := loaded.2.1
    let named := fun name (package : String × List ProcedureDefinition) => package.1 = name
    loaded.1 = .ok nodes ∧
    (∀ name params, cache.procedureParams.find? name = some params ↔
      ∃ definition, IsLast (fun definition => definition.name.qualified = name)
        (nodes.flatMap ProcedureNode.definitions) definition ∧ definition.params = params) ∧
    (∀ name definitions, cache.packages.find? name = some definitions ↔
      IsLast (named name) (nodes.filterMap ProcedureNode.ownPackage?) (name, definitions)) ∧
    ∀ name,
      (∀ definitions, cache.packages.find? name = some definitions ↔
        IsLast (named name) (nodes.flatMap ProcedureNode.packages) (name, definitions)) ↔
      ∀ before root inner after definitions, nodes = before ++ .root root inner :: after →
        (name, definitions) ∈ inner.packages →
        (∀ package ∈ after.flatMap ProcedureNode.packages, package.1 ≠ name) →
        IsLast (named name) (before.filterMap ProcedureNode.ownPackage?) (name, definitions) := by
  intro loaded cache named
  have hloaded : loaded = (.ok nodes, empty.learnProcedures nodes, (load state).2) :=
    consult_procedures_of_load hload
  have hcache : cache = empty.learnProcedures nodes := congrArg (fun loaded => loaded.2.1) hloaded
  have hpackages : ∀ name definitions, cache.packages.find? name = some definitions ↔
      IsLast (named name) (nodes.filterMap ProcedureNode.ownPackage?) (name, definitions) := by
    intro name definitions
    rw [hcache, packages_learn, NameMap.find_of_list_eq_some_iff]
  refine ⟨congrArg Prod.fst hloaded, fun name params => ?_, hpackages, fun name => ?_⟩
  · rw [hcache, procedure_params_learn, NameMap.find_of_list_eq_some_iff, is_last_map_iff]
    constructor
    · rintro ⟨definition, hlast, hentry⟩
      exact ⟨definition, hlast, congrArg Prod.snd hentry⟩
    · rintro ⟨definition, hlast, rfl⟩
      exact ⟨definition, hlast, Prod.ext hlast.1 rfl⟩
  · simp only [hpackages]
    exact ProcedureNode.last_at_top_iff_last_reached

/-- Of a package below a root the parameters are answered and the package is not. -/
theorem payroll_below_root_unanswered :
    let run : ProcedureDefinition := ⟨⟨"dbo", "payroll", "run"⟩, [⟨"@month", "int", .input, 1⟩]⟩
    let nodes : List ProcedureNode := [.root "dbo" (.package "payroll" [run])]
    let load : Unit → Except String (List ProcedureNode) × Unit := fun state => (.ok nodes, state)
    let cache := (consult procedures learnProcedures load .empty ()).2.1
    (load ()).1 = .ok nodes ∧
    cache.procedureParams.find? "dbo.payroll.run" = some run.params ∧
    IsLast (fun package => package.1 = "payroll") (nodes.flatMap ProcedureNode.packages)
      ("payroll", [run]) ∧
    cache.packages.find? "payroll" ≠ some [run] := by
  intro run nodes load cache
  have hload : (load ()).1 = .ok nodes := rfl
  obtain ⟨-, hparams, hpackages, -⟩ := loaded_procedures_indexed_iff hload
  refine ⟨hload, ?_, ⟨rfl, [], [], rfl, nofun⟩, fun hanswered => ?_⟩
  · exact (hparams "dbo.payroll.run" run.params).2 ⟨run, ⟨by decide, [], [], rfl, nofun⟩, rfl⟩
  · exact not_is_last_nil ((hpackages "payroll" [run]).1 hanswered)

end SchemaCache

end Orm
