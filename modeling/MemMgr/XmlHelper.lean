import MemMgr.Library.Lookup
import MemMgr.StringParsing

/-! How the sections of a configuration file are read: nodes of a parsed document, and the
values that are found under the names of the nodes below one of them. -/
namespace MemMgr

open Std (ExtTreeMap)

inductive XmlNodeType where
  | element
  | text
  | comment
  | other
  deriving DecidableEq

/-- A node with its name, all the text below it, and its children. -/
structure XmlNode where
  type : XmlNodeType
  name : String
  content : List Char
  children : List XmlNode

/-- The text of each name. -/
abbrev ModuleParam := ExtTreeMap String (List Char)

namespace XmlHelper

def intMax : Nat := 2 ^ 31 - 1

def checkNode (node : XmlNode) : Bool := node.type = .element ∨ node.type = .text

def hasChild (root : XmlNode) : Bool := root.children.any fun node => node.type = .element

/-- `GetModuleParam` over the children that are left. `std::map::insert` keeps the text a name
already has, and what was read before a child that is refused stays read. -/
def getModuleParam : List XmlNode → ModuleParam → Bool × ModuleParam
  | [], param => (true, param)
  | node :: rest, param =>
      if !checkNode node then (false, param)
      else getModuleParam rest (param.insertIfNew node.name node.content)

/-- The default also stands for a number that cannot be read. -/
def setIntParam (param : ModuleParam) (key : String) (defaultValue : Int) : Int :=
  match param[key]? with
  | none => defaultValue
  | some text => if text.length > 0 then (stoi text).getD defaultValue else defaultValue

def setUnsignedIntParam (param : ModuleParam) (key : String) (defaultValue : Nat) : Nat :=
  match param[key]? with
  | none => defaultValue
  | some text =>
      if text.length > 0 then
        match stoul text with
        | none => defaultValue
        | some src => if src > intMax then defaultValue else src
      else defaultValue

def setStringParam (param : ModuleParam) (key : String) (defaultValue : List Char) : List Char :=
  match param[key]? with
  | none => defaultValue
  | some text => if text.length > 0 then text else defaultValue

variable {nodes : List XmlNode} {param : ModuleParam} {key : String}

@[simp] theorem getModuleParam_nil : getModuleParam [] param = (true, param) := rfl

theorem getModuleParam_fst : (getModuleParam nodes param).1 = nodes.all checkNode := by
  induction nodes generalizing param with
  | nil => rfl
  | cons node rest ih =>
      rw [getModuleParam, List.all_cons]
      cases hCheck : checkNode node with
      | false => rfl
      | true => exact ih

/-- What was known before the children counts first. -/
theorem getModuleParam_lookup : (getModuleParam nodes param).2[key]? =
    param[key]?.or (getModuleParam nodes ∅).2[key]? := by
  induction nodes generalizing param with
  | nil => simp
  | cons node rest ih =>
      rw [getModuleParam, getModuleParam]
      cases hCheck : checkNode node with
      | false => simp
      | true =>
          simp only [Bool.not_true, Bool.false_eq_true, ↓reduceIte]
          have hAlone := @ih ((∅ : ModuleParam).insertIfNew node.name node.content)
          rw [ExtTreeMap.getElem?_insertIfNew_eq_or, ExtTreeMap.getElem?_empty, Option.none_or] at hAlone
          rw [ih, ExtTreeMap.getElem?_insertIfNew_eq_or, hAlone, Option.or_assoc]

/-- The first child of a name has its text, unless a child before it is refused. -/
theorem getModuleParam_find : (getModuleParam nodes ∅).2[key]? =
    ((nodes.takeWhile checkNode).find? fun node => node.name = key).map XmlNode.content := by
  induction nodes with
  | nil => simp
  | cons node rest ih =>
      rw [getModuleParam, List.takeWhile_cons]
      cases hCheck : checkNode node with
      | false => simp
      | true =>
          simp only [Bool.not_true, Bool.false_eq_true, ↓reduceIte]
          rw [getModuleParam_lookup, ExtTreeMap.getElem?_insertIfNew_of_none ExtTreeMap.getElem?_empty,
            ExtTreeMap.getElem?_empty, ih, List.find?_cons]
          by_cases hKey : node.name = key
          · simp [hKey]
          · simp [hKey]

theorem setIntParam_congr {param' : ModuleParam} (hSame : param[key]? = param'[key]?)
    (defaultValue : Int) : setIntParam param key defaultValue = setIntParam param' key defaultValue := by
  rw [setIntParam, setIntParam, hSame]

theorem setUnsignedIntParam_congr {param' : ModuleParam} (hSame : param[key]? = param'[key]?)
    (defaultValue : Nat) :
    setUnsignedIntParam param key defaultValue = setUnsignedIntParam param' key defaultValue := by
  rw [setUnsignedIntParam, setUnsignedIntParam, hSame]

/-- A text that spells a number of the range. -/
theorem setUnsignedIntParam_repr {value : Nat} (hText : param[key]? = some value.repr.toList)
    (hMax : value ≤ intMax) (defaultValue : Nat) : setUnsignedIntParam param key defaultValue = value := by
  have hFits : value < 2 ^ 64 := by
    rw [intMax] at hMax
    omega
  rw [setUnsignedIntParam, hText]
  dsimp only
  rw [if_pos (List.length_pos_iff.mpr (repr_ne_nil value)), stoul_repr hFits]
  exact if_neg (Nat.not_lt.mpr hMax)

end XmlHelper
end MemMgr
