import MemMgr.KillConfig

/-! Thresholds that are configured in megabytes and kept in kilobytes. Both sections multiply in
32 bits. -/
namespace MemMgr

open XmlHelper
open Std (ExtTreeMap)

/-- A value in megabytes makes no other threshold than 1024 times as many kilobytes. -/
structure ThresholdsExact (memoryMB : Nat) : Prop where
  killLevel : ∀ node param killLevelsMap, setUnsignedIntParam param "memoryMB" 0 = memoryMB →
    ∀ memoryKB ∈ (KillConfig.parseKillLevelNode node param killLevelsMap).2,
      memoryKB ∉ killLevelsMap → memoryKB = kbPerMb * memoryMB
  systemMemoryLevel : ∀ level root param config, checkNode root = true → hasChild root = true →
    getModuleParam root.children ∅ = (true, param) →
    setUnsignedIntParam param level.key level.defaultMB = memoryMB →
      (SystemMemoryLevelConfig.parseConfig root config).get level = kbPerMb * memoryMB

variable {node root : XmlNode} {param : ModuleParam} {killLevelsMap : KillLevelsMap}
variable {memoryMB memoryKB : Nat} {config : SystemMemoryLevelConfig}

/-- A product that fits is not wrapped. -/
theorem wrapUInt_of_lt (hFits : kbPerMb * memoryMB < 2 ^ 32) :
    wrapUInt (memoryMB * kbPerMb) = kbPerMb * memoryMB := by
  rw [wrapUInt, Nat.mul_comm, Nat.mod_eq_of_lt hFits]

/-- A threshold that a child adds. -/
theorem KillConfig.parseKillLevelNode_new
    (hMem : memoryKB ∈ (KillConfig.parseKillLevelNode node param killLevelsMap).2)
    (hNew : memoryKB ∉ killLevelsMap) :
    memoryKB = wrapUInt (setUnsignedIntParam param "memoryMB" 0 * kbPerMb) := by
  rw [parseKillLevelNode] at hMem
  dsimp only at hMem
  split at hMem
  · exact absurd hMem hNew
  · split at hMem
    · exact absurd hMem hNew
    · split at hMem
      · exact absurd hMem hNew
      · split at hMem
        · exact absurd hMem hNew
        · split at hMem
          · exact absurd hMem hNew
          · rcases ExtTreeMap.mem_insertIfNew.mp hMem with hKey | hOld
            · exact (Nat.compare_eq_eq.mp hKey).symm
            · exact absurd hOld hNew

/-- Each threshold is read from its own parameter, in kB. -/
theorem SystemMemoryLevelConfig.get_parseConfig (hNode : checkNode root = true) (hChild : hasChild root = true)
    (hParam : getModuleParam root.children ∅ = (true, param)) (level : MemoryLevel) :
    (SystemMemoryLevelConfig.parseConfig root config).get level =
      SystemMemoryLevelConfig.thresholdKB param level := by
  rw [parseConfig, hNode, hChild, hParam]
  cases level with
  | purgeable => rfl
  | moderate => rfl
  | low => rfl
  | critical => rfl

/-- A section with one value. -/
def purgeableSection (content : List Char) : XmlNode :=
  ⟨.element, "systemMemoryLevelConfig", content,
    [⟨.element, "purgeable", content, [⟨.text, "text", content, []⟩]⟩]⟩

/-- The thresholds of a value are exact if and only if they do not wrap. -/
theorem thresholdsExact_iff (hAccepted : memoryMB ≤ XmlHelper.intMax) :
    ThresholdsExact memoryMB ↔ kbPerMb * memoryMB < 2 ^ 32 := by
  constructor
  · intro hExact
    have hText : ((∅ : ModuleParam).insertIfNew "purgeable" memoryMB.repr.toList)["purgeable"]? =
        some memoryMB.repr.toList := by
      rw [ExtTreeMap.getElem?_insertIfNew_of_none ExtTreeMap.getElem?_empty]
      exact if_pos Std.ReflCmp.compare_self
    have hRead : setUnsignedIntParam ((∅ : ModuleParam).insertIfNew "purgeable" memoryMB.repr.toList)
        MemoryLevel.purgeable.key MemoryLevel.purgeable.defaultMB = memoryMB :=
      setUnsignedIntParam_repr hText hAccepted _
    have hStored := hExact.systemMemoryLevel .purgeable (purgeableSection memoryMB.repr.toList) _
      ⟨0, 0, 0, 0⟩ rfl rfl rfl hRead
    rw [SystemMemoryLevelConfig.get_parseConfig rfl rfl rfl, SystemMemoryLevelConfig.thresholdKB] at hStored
    rw [← hStored]
    exact Nat.mod_lt _ (by decide)
  · intro hFits
    refine ⟨fun node param killLevelsMap hRead memoryKB hMem hNew => ?_,
      fun level root param config hNode hChild hParam hRead => ?_⟩
    · rw [KillConfig.parseKillLevelNode_new hMem hNew, hRead, wrapUInt_of_lt hFits]
    · rw [SystemMemoryLevelConfig.get_parseConfig hNode hChild hParam,
        SystemMemoryLevelConfig.thresholdKB, hRead, wrapUInt_of_lt hFits]

/-- The default threshold is exact when it fits. -/
theorem thresholdsExact_iff_purgeable :
    ThresholdsExact memoryLevelPurgeableDefault ↔ kbPerMb * memoryLevelPurgeableDefault < 2 ^ 32 :=
  thresholdsExact_iff (by decide)

/-- A level from 4194305 megabytes on is one from 1024 kilobytes on. -/
theorem not_thresholdsExact : 4194305 ≤ XmlHelper.intMax ∧ ¬ ThresholdsExact 4194305 := by
  refine ⟨by decide, fun hExact => ?_⟩
  have hKey := hExact.killLevel ⟨.element, "killLevel", [], []⟩
    (((∅ : ModuleParam).insertIfNew "memoryMB" ['4', '1', '9', '4', '3', '0', '5']).insertIfNew
      "minPriority" ['0']) ∅ (by decide) 1024 (by decide) (by decide)
  exact absurd hKey (by decide)

end MemMgr
