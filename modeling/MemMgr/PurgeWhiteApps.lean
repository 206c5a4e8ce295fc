import MemMgr.ConfigSections
import MemMgr.PurgeByPsi

/-! The applications that purging may touch, as the configuration lists them. The names of a list go
through a map that has room for one of them. -/
namespace MemMgr

open XmlHelper
open Std (ExtTreeMap ExtTreeSet)

namespace PurgeablememConfig

/-- An element of a name. A text is a node of the name `text`. -/
def isNamed (name : String) (node : XmlNode) : Bool := checkNode node && node.name = name

/-- A name that stands in some list. -/
def Listed (root : XmlNode) (name : String) : Prop :=
  ∃ list ∈ root.children, isNamed "purgeWhiteAppList" list = true ∧
    ∃ child ∈ list.children, isNamed "procName" child = true ∧ child.content ≠ [] ∧
      String.ofList child.content = name

/-- The whitelist has the names of all lists, and no other name is accepted. -/
structure WhitelistExact (root : XmlNode) : Prop where
  whitelist : ∀ name, name ∈ parseConfig root ∅ ↔ Listed root name
  accepted : ∀ name,
    PurgeableMemManager.isPurgeWhiteApp (parseConfig root ∅) name = true ↔ Listed root name

/-- The lists before the first node that is neither an element nor a text. -/
def reachedLists (root : XmlNode) : List XmlNode :=
  if checkNode root && hasChild root then
    (root.children.takeWhile checkNode).filter fun node => node.name = "purgeWhiteAppList"
  else []

/-- The name of a list that is read: the first, if nothing stands before it that is neither an
element nor a text. -/
def firstProcName (list : XmlNode) : List Char :=
  (((list.children.takeWhile checkNode).find? fun node => node.name = "procName").map
    XmlNode.content).getD []

/-- Each list that is reached has a name to read, and what any list names is read of some list. -/
structure OneNameEach (root : XmlNode) : Prop where
  named : ∀ list ∈ reachedLists root, firstProcName list ≠ []
  read : ∀ name, Listed root name → ∃ list ∈ reachedLists root, String.ofList (firstProcName list) = name

variable {root list : XmlNode} {nodes : List XmlNode} {name : String} {whitelist : PurgeWhiteAppSet}

/-- One name is read of a list. -/
theorem setStringParam_procName :
    setStringParam (getModuleParam list.children ∅).2 "procName" [] = firstProcName list := by
  rw [setStringParam, getModuleParam_find, firstProcName]
  cases ((list.children.takeWhile checkNode).find? fun node => node.name = "procName") with
  | none => rfl
  | some node =>
      simp only [Option.map_some, Option.getD_some]
      cases node.content with
      | nil => rfl
      | cons c text => rfl

/-- The names of the list are those that were there, and the first name of each list that
is reached. -/
theorem mem_parseNodes : name ∈ parseNodes nodes whitelist ↔ name ∈ whitelist ∨
    ∃ list ∈ (nodes.takeWhile checkNode).filter (fun node => node.name = "purgeWhiteAppList"),
      String.ofList (firstProcName list) = name := by
  induction nodes generalizing whitelist with
  | nil => simp [parseNodes]
  | cons node rest ih =>
      rw [parseNodes, List.takeWhile_cons]
      cases hCheck : checkNode node with
      | false => simp
      | true =>
          simp only [Bool.not_true, Bool.false_eq_true, ↓reduceIte]
          by_cases hList : node.name = "purgeWhiteAppList"
          · rw [if_pos hList, ih, List.filter_cons_of_pos (by simp [hList]), setStringParam_procName]
            simp only [ExtTreeSet.mem_insert, Std.LawfulEqCmp.compare_eq_iff_eq, List.mem_cons,
              exists_eq_or_imp]
            rw [or_assoc, or_left_comm]
          · rw [if_neg hList, ih, List.filter_cons_of_neg (by simp [hList])]

/-- Read into an empty list, a section gives the first name of each list that it reaches. -/
theorem mem_parseConfig : name ∈ parseConfig root ∅ ↔
    ∃ list ∈ reachedLists root, String.ofList (firstProcName list) = name := by
  rw [parseConfig, reachedLists]
  cases hRoot : checkNode root with
  | false => simp
  | true =>
      cases hChild : hasChild root with
      | false => simp
      | true =>
          simp only [Bool.not_true, Bool.or_self, Bool.false_eq_true, ↓reduceIte, Bool.and_self]
          rw [mem_parseNodes]
          simp

theorem mem_takeWhile_checkNode {node : XmlNode} (hMem : node ∈ nodes.takeWhile checkNode) :
    node ∈ nodes ∧ checkNode node = true :=
  ⟨(List.takeWhile_sublist _).subset hMem, List.all_eq_true.mp List.all_takeWhile node hMem⟩

/-- A name that is read stands in its list. -/
theorem listed_firstProcName (hMem : list ∈ reachedLists root) (hName : firstProcName list ≠ []) :
    Listed root (String.ofList (firstProcName list)) := by
  rw [reachedLists] at hMem
  split at hMem
  · rw [List.mem_filter, decide_eq_true_iff] at hMem
    obtain ⟨hInside, hCheck⟩ := mem_takeWhile_checkNode hMem.1
    refine ⟨list, hInside, by simp [isNamed, hCheck, hMem.2], ?_⟩
    rw [firstProcName] at hName ⊢
    cases hFind : (list.children.takeWhile checkNode).find? fun node => node.name = "procName" with
    | none => simp [hFind] at hName
    | some child =>
        obtain ⟨hChild, hCheck'⟩ := mem_takeWhile_checkNode (List.mem_of_find?_eq_some hFind)
        have hProcName := List.find?_some hFind
        rw [decide_eq_true_iff] at hProcName
        rw [hFind] at hName
        exact ⟨child, hChild, by simp [isNamed, hCheck', hProcName], hName, rfl⟩
  · cases hMem

/-- The whitelist is the one of the configuration for just the sections where one name of each list
is enough. -/
theorem whitelistExact_iff (root : XmlNode) : WhitelistExact root ↔ OneNameEach root := by
  constructor
  · intro hExact
    refine ⟨fun list hMem hEmpty => ?_, fun name hListed => ?_⟩
    · have hRead : String.ofList (firstProcName list) ∈ parseConfig root ∅ :=
        mem_parseConfig.mpr ⟨list, hMem, rfl⟩
      obtain ⟨-, -, -, child, -, -, hContent, hSame⟩ := (hExact.whitelist _).mp hRead
      rw [String.ofList_injective hSame, hEmpty] at hContent
      exact hContent rfl
    · exact mem_parseConfig.mp ((hExact.whitelist name).mpr hListed)
  · intro hEach
    have hWhitelist : ∀ name, name ∈ parseConfig root ∅ ↔ Listed root name := by
      intro name
      rw [mem_parseConfig]
      constructor
      · rintro ⟨list, hMem, rfl⟩
        exact listed_firstProcName hMem (hEach.named list hMem)
      · exact hEach.read name
    refine ⟨hWhitelist, fun name => ?_⟩
    rw [← hWhitelist name]
    exact ExtTreeSet.contains_iff_mem

def procNameNode (content : List Char) : XmlNode :=
  ⟨.element, "procName", content, [⟨.text, "text", content, []⟩]⟩

def whiteAppSection (lists : List (List XmlNode)) : XmlNode :=
  ⟨.element, "purgeablememConfig", [], lists.map fun names => ⟨.element, "purgeWhiteAppList", [], names⟩⟩

/-- Two names in one list, and a list without a name. -/
theorem not_whitelistExact :
    ¬ WhitelistExact (whiteAppSection [[procNameNode ['a'], procNameNode ['b']]]) ∧
      ¬ WhitelistExact (whiteAppSection [[]]) := by
  constructor
  · intro hExact
    have hListed : Listed (whiteAppSection [[procNameNode ['a'], procNameNode ['b']]]) "b" :=
      ⟨_, List.mem_cons_self, rfl, procNameNode ['b'], by simp, rfl, by simp [procNameNode], rfl⟩
    have hNot : "b" ∉ parseConfig (whiteAppSection [[procNameNode ['a'], procNameNode ['b']]]) ∅ := by
      decide
    exact hNot ((hExact.whitelist "b").mpr hListed)
  · intro hExact
    have hRead : "" ∈ parseConfig (whiteAppSection [[]]) ∅ := by decide
    obtain ⟨-, -, -, child, -, -, hContent, hSame⟩ := (hExact.whitelist "").mp hRead
    exact hContent (String.ofList_eq_empty_iff.mp hSame)

end PurgeablememConfig
end MemMgr
