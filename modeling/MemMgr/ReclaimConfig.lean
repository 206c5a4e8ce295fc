import MemMgr.Library.SearchTree
import MemMgr.ReclaimPriorityConstants
import MemMgr.XmlHelper

/-! The entries of the reclaim configuration, each for a range of scores. The set that keeps them
goes by their least scores, with a comparator that also puts equal ones before each other. -/
namespace MemMgr

open SearchTree XmlHelper

def maxUnintparam : Nat := 100

def maxIntparam : Int := 1000

def memcgMem2ZramRatio : Nat := 60

def memcgZram2UfsRatio : Nat := 10

def memcgRefaultThreshold : Nat := 50

def percent100 : Nat := 100

structure ZswapdParam where
  minScore : Int
  maxScore : Int
  mem2zramRatio : Nat
  zram2ufsRatio : Nat
  refaultThreshold : Nat
  deriving DecidableEq

def zswapdParamPtrCmp (p1 p2 : ZswapdParam) : Bool := p1.minScore ≤ p2.minScore

abbrev ReclaimConfigSet := BinaryTree ZswapdParam

structure ReclaimRatios where
  mem2zramRatio : Nat
  zram2ufsRatio : Nat
  refaultThreshold : Nat
  deriving DecidableEq

/-- `SetRatiosByValue`, which leaves nothing of the old ratios. -/
def ReclaimRatios.ofValues (mem2zramRatio zram2ufsRatio refaultThreshold : Nat) : ReclaimRatios where
  mem2zramRatio := if mem2zramRatio > percent100 then percent100 else mem2zramRatio
  zram2ufsRatio := if zram2ufsRatio > percent100 then percent100 else zram2ufsRatio
  refaultThreshold := refaultThreshold

namespace ReclaimConfig

def checkScore (defaultScore score : Int) : Int :=
  if score < 0 ∨ score > maxIntparam then defaultScore else score

/-- An unsigned value has no lower bound to check. -/
def checkRatio (defaultRatio ratio : Nat) : Nat :=
  if ratio > maxUnintparam then defaultRatio else ratio

def checkZswapdParam (param : ZswapdParam) : ZswapdParam where
  minScore := checkScore 0 param.minScore
  maxScore := checkScore reclaimPriorityMax param.maxScore
  mem2zramRatio := checkRatio memcgMem2ZramRatio param.mem2zramRatio
  zram2ufsRatio := checkRatio memcgZram2UfsRatio param.zram2ufsRatio
  refaultThreshold := checkRatio memcgRefaultThreshold param.refaultThreshold

/-- The entry that the texts of a map make. -/
def zswapdParamOf (param : ModuleParam) : ZswapdParam :=
  checkZswapdParam
    { minScore := setIntParam param "minScore" 0
      maxScore := setIntParam param "maxScore" reclaimPriorityMax
      mem2zramRatio := setUnsignedIntParam param "mem2zramRatio" memcgMem2ZramRatio
      zram2ufsRatio := setUnsignedIntParam param "zram2ufsRatio" memcgZram2UfsRatio
      refaultThreshold := setUnsignedIntParam param "refaultThreshold" memcgRefaultThreshold }

section Parsing

variable (rebalancing : Rebalancing ZswapdParam)

def addReclaimConfigToSet (zswapdParam : ZswapdParam) (reclaimConfigSet : ReclaimConfigSet) :
    ReclaimConfigSet :=
  rebalancing.balance (insert zswapdParamPtrCmp zswapdParam reclaimConfigSet)

def setZswapdParamConfig (param : ModuleParam) (reclaimConfigSet : ReclaimConfigSet) :
    ReclaimConfigSet :=
  addReclaimConfigToSet rebalancing (zswapdParamOf param) reclaimConfigSet

/-- The loop over the nodes of the section, which share one map. -/
def parseNodes : List XmlNode → ModuleParam → ReclaimConfigSet → ReclaimConfigSet
  | [], _, reclaimConfigSet => reclaimConfigSet
  | node :: rest, param, reclaimConfigSet =>
      let (success, param) := getModuleParam node.children param
      if !success then reclaimConfigSet
      else parseNodes rest param (setZswapdParamConfig rebalancing param reclaimConfigSet)

def parseConfig (root : XmlNode) (reclaimConfigSet : ReclaimConfigSet) : ReclaimConfigSet :=
  if !checkNode root || !hasChild root then reclaimConfigSet
  else parseNodes rebalancing root.children ∅ reclaimConfigSet

end Parsing

/-- `GetReclaimRatiosByScore_`: the first entry whose range has the score. -/
def getReclaimRatiosByScore (reclaimConfigSet : ReclaimConfigSet) (score : Int)
    (ratios : ReclaimRatios) : Bool × ReclaimRatios :=
  match (inorder reclaimConfigSet).find? fun param =>
      param.minScore ≤ score ∧ param.maxScore ≥ score with
  | some param =>
      (true, ReclaimRatios.ofValues param.mem2zramRatio param.zram2ufsRatio param.refaultThreshold)
  | none => (false, ratios)

/-- The entries that the nodes make one after the other, from the texts known before them. -/
def parsedEntries : List XmlNode → ModuleParam → List ZswapdParam
  | [], _ => []
  | node :: rest, param =>
      let (success, param) := getModuleParam node.children param
      if !success then [] else zswapdParamOf param :: parsedEntries rest param

variable {rebalancing : Rebalancing ZswapdParam} {nodes : List XmlNode} {param : ModuleParam}
variable {reclaimConfigSet : ReclaimConfigSet}

/-- Every entry is inserted: the comparator orders any two of them. -/
theorem inorder_parseNodes : (inorder (parseNodes rebalancing nodes param reclaimConfigSet)).Perm
    (parsedEntries nodes param ++ inorder reclaimConfigSet) := by
  induction nodes generalizing param reclaimConfigSet with
  | nil => exact List.Perm.refl _
  | cons node rest ih =>
      rw [parseNodes, parsedEntries]
      obtain ⟨success, known⟩ := getModuleParam node.children param
      cases success with
      | false => exact List.Perm.refl _
      | true =>
          have hInsert : (inorder (setZswapdParamConfig rebalancing known reclaimConfigSet)).Perm
              (zswapdParamOf known :: inorder reclaimConfigSet) := by
            rw [setZswapdParamConfig, addReclaimConfigToSet, Rebalancing.inorder_balance]
            refine insert_perm_of_ordered fun other _ => ?_
            simp only [zswapdParamPtrCmp, decide_eq_true_iff]
            exact Int.le_total _ _
          exact (ih.trans (hInsert.append_left _)).trans List.perm_middle

/-- A set that is sorted stays so while nodes are read into it. -/
theorem sorted_parseNodes
    (hSorted : (inorder reclaimConfigSet).Pairwise fun p1 p2 => p1.minScore ≤ p2.minScore) :
    (inorder (parseNodes rebalancing nodes param reclaimConfigSet)).Pairwise
      fun p1 p2 => p1.minScore ≤ p2.minScore := by
  induction nodes generalizing param reclaimConfigSet with
  | nil => exact hSorted
  | cons node rest ih =>
      rw [parseNodes]
      obtain ⟨success, known⟩ := getModuleParam node.children param
      cases success with
      | false => exact hSorted
      | true =>
          have hTrans : ∀ p1 p2 p3 : ZswapdParam, p1.minScore ≤ p2.minScore →
              p2.minScore ≤ p3.minScore → p1.minScore ≤ p3.minScore := fun _ _ _ => Int.le_trans
          refine ih ?_
          rw [setZswapdParamConfig, addReclaimConfigToSet, Rebalancing.inorder_balance]
          exact insert_pairwise hTrans (fun _ _ => of_decide_eq_true) (fun _ _ => of_decide_eq_true)
            hSorted

/-- A ratio that passed the check is a percentage. -/
theorem checkRatio_le {defaultRatio : Nat} (hDefault : defaultRatio ≤ percent100) (ratio : Nat) :
    checkRatio defaultRatio ratio ≤ percent100 := by
  rw [checkRatio]
  split
  · exact hDefault
  · rename_i hRatio
    exact Nat.not_lt.mp hRatio

/-- The ratios of a checked entry are taken as they are. -/
theorem ofValues_checked (zswapdParam : ZswapdParam) :
    let checked := checkZswapdParam zswapdParam
    ReclaimRatios.ofValues checked.mem2zramRatio checked.zram2ufsRatio checked.refaultThreshold =
      ⟨checked.mem2zramRatio, checked.zram2ufsRatio, checked.refaultThreshold⟩ := by
  have hMem2zram : ¬ (checkZswapdParam zswapdParam).mem2zramRatio > percent100 :=
    Nat.not_lt.mpr (checkRatio_le (by decide) _)
  have hZram2ufs : ¬ (checkZswapdParam zswapdParam).zram2ufsRatio > percent100 :=
    Nat.not_lt.mpr (checkRatio_le (by decide) _)
  simp only [ReclaimRatios.ofValues, if_neg hMem2zram, if_neg hZram2ufs]

end ReclaimConfig
end MemMgr
