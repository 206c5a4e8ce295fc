import MemMgr.KillConfig
import MemMgr.ReclaimConfig

/-! The configuration as it is read from its file. The ranges for reclaiming are cleared before the
first section is parsed, and the sections are taken over one by one. -/
namespace MemMgr

open SearchTree XmlHelper
open Std (ExtTreeMap)

/-- What the sections have configured. -/
structure ConfigSections where
  availBufferConfig : AvailBufferConfig
  killConfig : KillLevelsMap
  systemMemoryLevelConfig : SystemMemoryLevelConfig
  nandLifeConfig : NandLifeConfig
  switchConfig : SwitchConfig
  reclaimPriorityConfig : ReclaimPriorityConfig
  reclaimConfig : ReclaimConfigSet
  purgeablememConfig : PurgeWhiteAppSet

structure MemmgrConfigManager where
  xmlLoaded : Bool
  sections : ConfigSections

namespace MemmgrConfigManager

/-- The range that `InitDefaultConfig` adds, which is not checked as those of a file are. -/
def defaultZswapdParam : ZswapdParam :=
  ⟨reclaimPriorityMin, reclaimPriorityMax, memcgMem2ZramRatio, memcgZram2UfsRatio, memcgRefaultThreshold⟩

def defaultRatios : ReclaimRatios :=
  ReclaimRatios.ofValues memcgMem2ZramRatio memcgZram2UfsRatio memcgRefaultThreshold

/-- The manager as it is constructed. -/
def initDefaultConfig : MemmgrConfigManager where
  xmlLoaded := false
  sections :=
    { availBufferConfig := .default
      killConfig := ∅
      systemMemoryLevelConfig := ⟨0, 0, 0, 0⟩
      nandLifeConfig := ⟨0, 0⟩
      switchConfig := ⟨0⟩
      reclaimPriorityConfig := .empty
      reclaimConfig := insert zswapdParamPtrCmp defaultZswapdParam .nil
      purgeablememConfig := ∅ }

def clearExistConfig (sections : ConfigSections) : ConfigSections := { sections with reclaimConfig := .nil }

variable (rebalancing : Rebalancing ZswapdParam)

/-- The class that parses a child of the root; none for a name that is not known. -/
def parseSection (node : XmlNode) (sections : ConfigSections) : Option ConfigSections :=
  if node.name = "availBufferConfig" then
    some { sections with
      availBufferConfig := AvailBufferConfig.parseConfig node sections.availBufferConfig }
  else if node.name = "reclaimConfig" then
    some { sections with
      reclaimConfig := ReclaimConfig.parseConfig rebalancing node sections.reclaimConfig }
  else if node.name = "killConfig" then
    some { sections with killConfig := KillConfig.parseConfig node sections.killConfig }
  else if node.name = "systemMemoryLevelConfig" then
    some { sections with
      systemMemoryLevelConfig :=
        SystemMemoryLevelConfig.parseConfig node sections.systemMemoryLevelConfig }
  else if node.name = "reclaimPriorityConfig" then
    some { sections with
      reclaimPriorityConfig := ReclaimPriorityConfig.parseConfig node sections.reclaimPriorityConfig }
  else if node.name = "nandLifeConfig" then
    some { sections with nandLifeConfig := NandLifeConfig.parseConfig node sections.nandLifeConfig }
  else if node.name = "switchConfig" then
    some { sections with switchConfig := SwitchConfig.parseConfig node sections.switchConfig }
  else if node.name = "purgeablememConfig" then
    some { sections with
      purgeablememConfig := PurgeablememConfig.parseConfig node sections.purgeablememConfig }
  else none

def parseXmlRootNode : List XmlNode → ConfigSections → Bool × ConfigSections
  | [], sections => (true, sections)
  | node :: rest, sections =>
      match parseSection rebalancing node sections with
      | none => (false, sections)
      | some sections => parseXmlRootNode rest sections

/-- `ReadParamFromXml`, with the root of the document if there is a file and it can be parsed. -/
def readParamFromXml (document : Option XmlNode) (manager : MemmgrConfigManager) :
    Bool × MemmgrConfigManager :=
  match document with
  | none => (false, manager)
  | some root =>
      let (loaded, sections) :=
        parseXmlRootNode rebalancing root.children (clearExistConfig manager.sections)
      (loaded, ⟨loaded, sections⟩)

/-- The names of the sections. -/
def sectionNames : List String :=
  ["availBufferConfig", "reclaimConfig", "killConfig", "systemMemoryLevelConfig",
    "reclaimPriorityConfig", "nandLifeConfig", "switchConfig", "purgeablememConfig"]

def isSection (node : XmlNode) : Bool := sectionNames.contains node.name

def hasReclaimConfig (root : XmlNode) : Bool := root.children.any fun node => node.name = "reclaimConfig"

/-- Every score has the default ratios. -/
def DefaultInForce (reclaimConfig : ReclaimConfigSet) : Prop :=
  ∀ score, reclaimPriorityMin ≤ score → score ≤ reclaimPriorityMax → ∀ ratios,
    ReclaimConfig.getReclaimRatiosByScore reclaimConfig score ratios = (true, defaultRatios)

/-- The same configuration, whatever the shape of the tree of ranges. -/
structure SameSections (sections sections' : ConfigSections) : Prop where
  availBufferConfig : sections.availBufferConfig = sections'.availBufferConfig
  killConfig : sections.killConfig = sections'.killConfig
  systemMemoryLevelConfig : sections.systemMemoryLevelConfig = sections'.systemMemoryLevelConfig
  nandLifeConfig : sections.nandLifeConfig = sections'.nandLifeConfig
  switchConfig : sections.switchConfig = sections'.switchConfig
  reclaimPriorityConfig : sections.reclaimPriorityConfig = sections'.reclaimPriorityConfig
  reclaimConfig : inorder sections.reclaimConfig = inorder sections'.reclaimConfig
  purgeablememConfig : sections.purgeablememConfig = sections'.purgeablememConfig

/-- A document that is refused changes nothing, and one that does not speak of reclaiming leaves the
default range in force. -/
structure LoadsAtomically (document : Option XmlNode) (manager : MemmgrConfigManager) : Prop where
  refused : (readParamFromXml rebalancing document manager).1 = false →
    SameSections (readParamFromXml rebalancing document manager).2.sections manager.sections
  silent : ∀ root ∈ document, (readParamFromXml rebalancing document manager).1 = true →
    hasReclaimConfig root = false → DefaultInForce manager.sections.reclaimConfig →
      DefaultInForce (readParamFromXml rebalancing document manager).2.sections.reclaimConfig

/-- What the children of one name make of a value. -/
def foldSection {γ : Type} (name : String) (parse : XmlNode → γ → γ) (nodes : List XmlNode) (value : γ) : γ :=
  (nodes.filter fun node => node.name = name).foldl (fun value node => parse node value) value

/-- The nodes say of each section what is configured already, the ranges from the first to the
last. -/
structure Restates (nodes : List XmlNode) (sections : ConfigSections) : Prop where
  availBufferConfig : foldSection "availBufferConfig" AvailBufferConfig.parseConfig nodes
    sections.availBufferConfig = sections.availBufferConfig
  killConfig : foldSection "killConfig" KillConfig.parseConfig nodes sections.killConfig =
    sections.killConfig
  systemMemoryLevelConfig : foldSection "systemMemoryLevelConfig" SystemMemoryLevelConfig.parseConfig
    nodes sections.systemMemoryLevelConfig = sections.systemMemoryLevelConfig
  nandLifeConfig : foldSection "nandLifeConfig" NandLifeConfig.parseConfig nodes
    sections.nandLifeConfig = sections.nandLifeConfig
  switchConfig : foldSection "switchConfig" SwitchConfig.parseConfig nodes sections.switchConfig =
    sections.switchConfig
  reclaimPriorityConfig : foldSection "reclaimPriorityConfig" ReclaimPriorityConfig.parseConfig nodes
    sections.reclaimPriorityConfig = sections.reclaimPriorityConfig
  reclaimConfig : inorder (foldSection "reclaimConfig" (ReclaimConfig.parseConfig rebalancing) nodes
    .nil) = inorder sections.reclaimConfig
  purgeablememConfig : foldSection "purgeablememConfig" PurgeablememConfig.parseConfig nodes
    sections.purgeablememConfig = sections.purgeablememConfig

/-- What the nodes make of all sections. -/
def foldSections (nodes : List XmlNode) (sections : ConfigSections) : ConfigSections where
  availBufferConfig := foldSection "availBufferConfig" AvailBufferConfig.parseConfig nodes
    sections.availBufferConfig
  killConfig := foldSection "killConfig" KillConfig.parseConfig nodes sections.killConfig
  systemMemoryLevelConfig := foldSection "systemMemoryLevelConfig" SystemMemoryLevelConfig.parseConfig
    nodes sections.systemMemoryLevelConfig
  nandLifeConfig := foldSection "nandLifeConfig" NandLifeConfig.parseConfig nodes sections.nandLifeConfig
  switchConfig := foldSection "switchConfig" SwitchConfig.parseConfig nodes sections.switchConfig
  reclaimPriorityConfig := foldSection "reclaimPriorityConfig" ReclaimPriorityConfig.parseConfig nodes
    sections.reclaimPriorityConfig
  reclaimConfig := foldSection "reclaimConfig" (ReclaimConfig.parseConfig rebalancing) nodes
    sections.reclaimConfig
  purgeablememConfig := foldSection "purgeablememConfig" PurgeablememConfig.parseConfig nodes
    sections.purgeablememConfig

variable {rebalancing}
variable {document : Option XmlNode} {manager : MemmgrConfigManager} {root node : XmlNode}
variable {nodes : List XmlNode} {sections : ConfigSections} {reclaimConfig : ReclaimConfigSet}

theorem foldSection_cons {γ : Type} {name : String} {parse : XmlNode → γ → γ} {value : γ} :
    foldSection name parse (node :: nodes) value =
      if node.name = name then foldSection name parse nodes (parse node value)
      else foldSection name parse nodes value := by
  by_cases hName : node.name = name
  · simp [foldSection, hName]
  · simp [foldSection, hName]

/-- A child changes the section of its name alone. -/
theorem foldSections_cons (hSection : isSection node = true) :
    ∃ after, parseSection rebalancing node sections = some after ∧
      foldSections rebalancing (node :: nodes) sections = foldSections rebalancing nodes after := by
  have hNames : node.name ∈ sectionNames := List.contains_iff_mem.mp hSection
  simp only [sectionNames, List.mem_cons, List.not_mem_nil, or_false] at hNames
  rcases hNames with hName | hName | hName | hName | hName | hName | hName | hName
  all_goals
    refine ⟨_, by rw [parseSection]; simp only [hName]; rfl, ?_⟩
    simp [foldSections, foldSection_cons, hName]

/-- A node with an unknown name is no section, and nothing is parsed. -/
theorem parseSection_of_not (hOther : isSection node = false) :
    parseSection rebalancing node sections = none := by
  have hNames : node.name ∉ sectionNames := by
    rw [← List.contains_iff_mem, Bool.not_eq_true]
    exact hOther
  simp only [sectionNames, List.mem_cons, List.not_mem_nil, or_false, not_or] at hNames
  simp [parseSection, hNames]

/-- The sections before the first name that is not known are taken over. -/
theorem parseXmlRootNode_eq : parseXmlRootNode rebalancing nodes sections =
    (nodes.all isSection, foldSections rebalancing (nodes.takeWhile isSection) sections) := by
  induction nodes generalizing sections with
  | nil => rfl
  | cons node rest ih =>
      rw [parseXmlRootNode, List.all_cons, List.takeWhile_cons]
      cases hSection : isSection node with
      | false =>
          rw [parseSection_of_not hSection]
          rfl
      | true =>
          obtain ⟨after, hParse, hFold⟩ := @foldSections_cons rebalancing node
            (rest.takeWhile isSection) sections hSection
          rw [hParse]
          dsimp only
          rw [ih, if_pos rfl, hFold, Bool.true_and]

/-- The sections before the first unknown one are read into the cleared configuration. -/
theorem readParamFromXml_some : readParamFromXml rebalancing (some root) manager =
    (root.children.all isSection, ⟨root.children.all isSection,
      foldSections rebalancing (root.children.takeWhile isSection)
        (clearExistConfig manager.sections)⟩) := by
  rw [readParamFromXml]
  dsimp only
  rw [parseXmlRootNode_eq]

/-- The entries of a file are for scores from zero on. -/
theorem minScore_parsedEntries {param : ModuleParam} {entry : ZswapdParam}
    (hMem : entry ∈ ReclaimConfig.parsedEntries nodes param) : 0 ≤ entry.minScore := by
  induction nodes generalizing param with
  | nil => simp [ReclaimConfig.parsedEntries] at hMem
  | cons node rest ih =>
      rw [ReclaimConfig.parsedEntries] at hMem
      generalize getModuleParam node.children param = result at hMem
      obtain ⟨success, known⟩ := result
      cases success with
      | false => simp at hMem
      | true =>
          rcases List.mem_cons.mp hMem with rfl | hLater
          · simp only [ReclaimConfig.zswapdParamOf, ReclaimConfig.checkZswapdParam,
              ReclaimConfig.checkScore]
            split
            · exact Int.le_refl 0
            · rename_i hRange
              exact Int.not_lt.mp fun hNegative => hRange (Or.inl hNegative)
          · exact ih hLater

/-- The scores that a section gives are never negative. -/
theorem minScore_parseConfig (hBefore : ∀ entry ∈ inorder reclaimConfig, 0 ≤ entry.minScore) :
    ∀ entry ∈ inorder (ReclaimConfig.parseConfig rebalancing root reclaimConfig), 0 ≤ entry.minScore := by
  intro entry hMem
  rw [ReclaimConfig.parseConfig] at hMem
  split at hMem
  · exact hBefore entry hMem
  · rw [ReclaimConfig.inorder_parseNodes.mem_iff, List.mem_append] at hMem
    rcases hMem with hParsed | hOld
    · exact minScore_parsedEntries hParsed
    · exact hBefore entry hOld

theorem minScore_foldSection (hBefore : ∀ entry ∈ inorder reclaimConfig, 0 ≤ entry.minScore) :
    ∀ entry ∈ inorder (foldSection "reclaimConfig" (ReclaimConfig.parseConfig rebalancing) nodes
      reclaimConfig), 0 ≤ entry.minScore := by
  induction nodes generalizing reclaimConfig with
  | nil => exact hBefore
  | cons node rest ih =>
      rw [foldSection_cons]
      split
      · exact ih (minScore_parseConfig hBefore)
      · exact ih hBefore

/-- The default range also covers the negative scores, which no entry of a file does. -/
theorem DefaultInForce.negative (hDefault : DefaultInForce reclaimConfig) :
    ∃ entry ∈ inorder reclaimConfig, entry.minScore < 0 := by
  have hRatios := hDefault (-1) (by decide) (by decide) defaultRatios
  rw [ReclaimConfig.getReclaimRatiosByScore] at hRatios
  split at hRatios
  · rename_i entry hFind
    have hCovers := List.find?_some hFind
    rw [decide_eq_true_iff] at hCovers
    refine ⟨entry, List.mem_of_find?_eq_some hFind, ?_⟩
    omega
  · exact absurd (congrArg Prod.fst hRatios) (by decide)

theorem not_defaultInForce_nil : ¬ DefaultInForce .nil := by
  intro hDefault
  obtain ⟨entry, hMem, -⟩ := hDefault.negative
  simp [inorder] at hMem

/-- A document that restates the configuration leaves no default in force. -/
theorem Restates.not_defaultInForce (hRestates : Restates rebalancing nodes sections) :
    ¬ DefaultInForce sections.reclaimConfig := by
  intro hDefault
  obtain ⟨entry, hMem, hNegative⟩ := hDefault.negative
  rw [← hRestates.reclaimConfig] at hMem
  have hLeast := minScore_foldSection (by simp [inorder]) entry hMem
  omega

/-- A document restates the sections when reading it gives what is there. -/
theorem restates_iff : Restates rebalancing nodes sections ↔
    SameSections (foldSections rebalancing nodes (clearExistConfig sections)) sections := by
  constructor
  · rintro ⟨hAvail, hKill, hLevel, hNand, hSwitch, hPriority, hReclaim, hPurgeable⟩
    exact ⟨hAvail, hKill, hLevel, hNand, hSwitch, hPriority, hReclaim, hPurgeable⟩
  · rintro ⟨hAvail, hKill, hLevel, hNand, hSwitch, hPriority, hReclaim, hPurgeable⟩
    exact ⟨hAvail, hKill, hLevel, hNand, hSwitch, hPriority, hReclaim, hPurgeable⟩

/-- A document that does no harm. Where the default range is in force, all its children are known, and
one of them is for reclaiming. Where it is not, all are known, or there is nothing new before the first
that is not. -/
structure Harmless (rebalancing : Rebalancing ZswapdParam) (root : XmlNode) (sections : ConfigSections) :
    Prop where
  inForce : DefaultInForce sections.reclaimConfig →
    root.children.all isSection = true ∧ hasReclaimConfig root = true
  notInForce : ¬ DefaultInForce sections.reclaimConfig →
    root.children.all isSection = true ∨
      Restates rebalancing (root.children.takeWhile isSection) sections

/-- Without a section of this name its part of the configuration stays. -/
theorem foldSection_of_not (hNone : hasReclaimConfig root = false) :
    foldSection "reclaimConfig" (ReclaimConfig.parseConfig rebalancing)
      (root.children.takeWhile isSection) reclaimConfig = reclaimConfig := by
  have hFilter : ((root.children.takeWhile isSection).filter fun node =>
      node.name = "reclaimConfig") = [] := by
    rw [List.filter_eq_nil_iff]
    intro node hMem
    exact List.any_eq_false.mp hNone node ((List.takeWhile_sublist _).subset hMem)
  rw [foldSection, hFilter]
  rfl

/-- Where all children are known, the ranges may only get lost. -/
theorem loadsAtomically_of_known (hAll : root.children.all isSection = true) :
    LoadsAtomically rebalancing (some root) manager ↔
      hasReclaimConfig root = true ∨ ¬ DefaultInForce manager.sections.reclaimConfig := by
  have hLoaded : (readParamFromXml rebalancing (some root) manager).1 = true := by
    rw [readParamFromXml_some]
    exact hAll
  constructor
  · intro hAtomic
    cases hReclaim : hasReclaimConfig root with
    | true => exact Or.inl rfl
    | false =>
        refine Or.inr fun hDefault => not_defaultInForce_nil ?_
        have hAfter := hAtomic.silent root rfl hLoaded hReclaim hDefault
        rw [readParamFromXml_some] at hAfter
        dsimp only [foldSections, clearExistConfig] at hAfter
        rwa [foldSection_of_not hReclaim] at hAfter
  · intro hHarmless
    refine ⟨fun hRefused => ?_, fun other hOther _ hReclaim hDefault => ?_⟩
    · rw [hLoaded] at hRefused
      cases hRefused
    · obtain rfl := Option.some.inj hOther
      rw [hReclaim] at hHarmless
      exact absurd hDefault (hHarmless.resolve_left Bool.false_ne_true)

/-- A document that is refused has to say what is there already. -/
theorem loadsAtomically_of_unknown (hOther : root.children.all isSection = false) :
    LoadsAtomically rebalancing (some root) manager ↔
      Restates rebalancing (root.children.takeWhile isSection) manager.sections := by
  have hRefused : (readParamFromXml rebalancing (some root) manager).1 = false := by
    rw [readParamFromXml_some]
    exact hOther
  rw [restates_iff]
  constructor
  · intro hAtomic
    have hSame := hAtomic.refused hRefused
    rw [readParamFromXml_some] at hSame
    exact hSame
  · intro hSame
    refine ⟨fun _ => ?_, fun other hRoot hLoaded => ?_⟩
    · rw [readParamFromXml_some]
      exact hSame
    · rw [hRefused] at hLoaded
      cases hLoaded

/-- Loading is atomic and keeps the default range for just the documents that do no harm. -/
theorem loadsAtomically_iff (rebalancing : Rebalancing ZswapdParam) (document : Option XmlNode)
    (manager : MemmgrConfigManager) : LoadsAtomically rebalancing document manager ↔
      ∀ root ∈ document, Harmless rebalancing root manager.sections := by
  cases document with
  | none =>
      have hSame : SameSections manager.sections manager.sections :=
        ⟨rfl, rfl, rfl, rfl, rfl, rfl, rfl, rfl⟩
      exact ⟨fun _ => by simp, fun _ => ⟨fun _ => hSame, by simp⟩⟩
  | some root =>
      simp only [Option.mem_some_iff, forall_eq']
      cases hAll : root.children.all isSection with
      | true =>
          rw [loadsAtomically_of_known hAll]
          constructor
          · intro hKept
            exact ⟨fun hDefault => ⟨hAll, hKept.resolve_right (not_not.mpr hDefault)⟩,
              fun _ => Or.inl hAll⟩
          · intro hHarmless
            by_cases hDefault : DefaultInForce manager.sections.reclaimConfig
            · exact Or.inl (hHarmless.inForce hDefault).2
            · exact Or.inr hDefault
      | false =>
          have hKnown : ¬ root.children.all isSection = true := Bool.eq_false_iff.mp hAll
          rw [loadsAtomically_of_unknown hAll]
          constructor
          · intro hRestates
            exact ⟨fun hDefault => absurd hDefault hRestates.not_defaultInForce,
              fun _ => Or.inr hRestates⟩
          · intro hHarmless
            have hNot : ¬ DefaultInForce manager.sections.reclaimConfig :=
              fun hDefault => hKnown (hHarmless.inForce hDefault).1
            exact (hHarmless.notInForce hNot).resolve_left hKnown

theorem defaultInForce_initDefaultConfig : DefaultInForce initDefaultConfig.sections.reclaimConfig := by
  intro score hLow hHigh ratios
  have hCovers : defaultZswapdParam.minScore ≤ score ∧ defaultZswapdParam.maxScore ≥ score :=
    ⟨hLow, hHigh⟩
  have hOnly : inorder initDefaultConfig.sections.reclaimConfig = [defaultZswapdParam] := by decide
  have hFind : [defaultZswapdParam].find? (fun param => param.minScore ≤ score ∧ param.maxScore ≥ score) =
      some defaultZswapdParam := List.find?_cons_of_pos (decide_eq_true hCovers)
  rw [ReclaimConfig.getReclaimRatiosByScore, hOnly, hFind]
  rfl

/-- With a comment, and with nothing in it. -/
theorem not_loadsAtomically :
    ¬ LoadsAtomically .none (some ⟨.element, "Memmgr", [], [⟨.comment, "comment", [], []⟩]⟩)
      initDefaultConfig ∧
    ¬ LoadsAtomically .none (some ⟨.element, "Memmgr", [], []⟩) initDefaultConfig := by
  constructor
  · intro hAtomic
    exact absurd (hAtomic.refused (by decide)).reclaimConfig (by decide)
  · intro hAtomic
    exact not_defaultInForce_nil
      (hAtomic.silent _ rfl (by decide) (by decide) defaultInForce_initDefaultConfig)

end MemmgrConfigManager
end MemMgr
