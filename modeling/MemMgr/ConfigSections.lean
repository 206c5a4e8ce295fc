import MemMgr.NandLifeController
import MemMgr.ReclaimPriorityConfig
import MemMgr.XmlHelper

/-! The sections of the configuration file, one class for each. A section without elements, or with
a node that is no element where one is asked for, leaves its class as it is. -/
namespace MemMgr

open XmlHelper
open Std (ExtTreeMap ExtTreeSet)

def kbPerMb : Nat := 1024

/-- `unsigned int` arithmetic. -/
def wrapUInt (value : Nat) : Nat := value % 2 ^ 32

def availBuffer : Nat := 800
def minAvailBuffer : Nat := 750
def highAvailBuffer : Nat := 850
def swapReserve : Nat := 200

/-- Buffer sizes in megabytes. -/
structure AvailBufferConfig where
  availBuffer : Nat
  minAvailBuffer : Nat
  highAvailBuffer : Nat
  swapReserve : Nat
  deriving DecidableEq

namespace AvailBufferConfig

/-- `SetDefaultConfig` with the values of `InitDefaultConfig`. -/
def default : AvailBufferConfig :=
  ⟨MemMgr.availBuffer, MemMgr.minAvailBuffer, MemMgr.highAvailBuffer, MemMgr.swapReserve⟩

def setAvailBufferConfig (param : ModuleParam) : AvailBufferConfig where
  availBuffer := setUnsignedIntParam param "availBuffer" MemMgr.availBuffer
  minAvailBuffer := setUnsignedIntParam param "minAvailBuffer" MemMgr.minAvailBuffer
  highAvailBuffer := setUnsignedIntParam param "highAvailBuffer" MemMgr.highAvailBuffer
  swapReserve := setUnsignedIntParam param "swapReserve" MemMgr.swapReserve

def parseConfig (root : XmlNode) (config : AvailBufferConfig) : AvailBufferConfig :=
  if !checkNode root || !hasChild root then config
  else
    let (success, param) := getModuleParam root.children ∅
    if !success then config else setAvailBufferConfig param

end AvailBufferConfig

def memoryLevelPurgeableDefault : Nat := 1024
def memoryLevelModerateDefault : Nat := 800
def memoryLevelLowDefault : Nat := 700
def memoryLevelCriticalDefault : Nat := 600

/-- The levels of `SystemMemoryLevelConfig`. -/
inductive MemoryLevel where
  | purgeable
  | moderate
  | low
  | critical
  deriving DecidableEq

namespace MemoryLevel

def key : MemoryLevel → String
  | purgeable => "purgeable"
  | moderate => "moderate"
  | low => "low"
  | critical => "critical"

def defaultMB : MemoryLevel → Nat
  | purgeable => memoryLevelPurgeableDefault
  | moderate => memoryLevelModerateDefault
  | low => memoryLevelLowDefault
  | critical => memoryLevelCriticalDefault

end MemoryLevel

/-- Thresholds in kilobytes. -/
structure SystemMemoryLevelConfig where
  purgeable : Nat
  moderate : Nat
  low : Nat
  critical : Nat
  deriving DecidableEq

namespace SystemMemoryLevelConfig

def get (config : SystemMemoryLevelConfig) : MemoryLevel → Nat
  | .purgeable => config.purgeable
  | .moderate => config.moderate
  | .low => config.low
  | .critical => config.critical

/-- The threshold of a level, changed from megabytes. -/
def thresholdKB (param : ModuleParam) (level : MemoryLevel) : Nat :=
  wrapUInt (setUnsignedIntParam param level.key level.defaultMB * kbPerMb)

def parseConfig (root : XmlNode) (config : SystemMemoryLevelConfig) : SystemMemoryLevelConfig :=
  if !checkNode root || !hasChild root then config
  else
    let (success, param) := getModuleParam root.children ∅
    if !success then config
    else
      { purgeable := thresholdKB param .purgeable
        moderate := thresholdKB param .moderate
        low := thresholdKB param .low
        critical := thresholdKB param .critical }

end SystemMemoryLevelConfig

/-- `ParseUnsignedLongLongContent`. A number with a sign counts as zero. -/
def XmlHelper.parseUnsignedLongLongContent (node : XmlNode) : Nat :=
  if (node.content.dropWhile (· == ' ')).head? = some '-' then 0
  else (strtoull (String.ofList node.content)).1

namespace NandLifeConfig

/-- One round of the loop over the nodes. -/
def parseNode (config : NandLifeConfig) (node : XmlNode) : NandLifeConfig :=
  if node.name = "dailySwapOutQuotaMB" then
    { config with dailySwapOutQuotaMb := parseUnsignedLongLongContent node }
  else if node.name = "totalSwapOutQuotaMB" then
    { config with totalSwapOutQuotaMb := parseUnsignedLongLongContent node }
  else config

def parseConfig (root : XmlNode) (config : NandLifeConfig) : NandLifeConfig :=
  if !checkNode root || !hasChild root then config else root.children.foldl parseNode config

end NandLifeConfig

structure SwitchConfig where
  bigMemKillSwitch : Nat

namespace SwitchConfig

/-- One round of the loop over the nodes. -/
def parseNode (config : SwitchConfig) (node : XmlNode) : SwitchConfig :=
  if node.name = "bigMemKillSwitch" then ⟨parseUnsignedLongLongContent node⟩ else config

def parseConfig (root : XmlNode) (config : SwitchConfig) : SwitchConfig :=
  if !checkNode root || !hasChild root then config else root.children.foldl parseNode config

end SwitchConfig

namespace ReclaimPriorityConfig

/-- The loop over the killable applications, which ends at the first node that is none. -/
def parseKillableNodes : List XmlNode → ReclaimPriorityConfig → ReclaimPriorityConfig
  | [], config => config
  | node :: rest, config =>
      if !checkNode node then config
      else if node.name = "killableSysApp" then
        parseKillableNodes rest (config.addKillableSysApp (String.ofList node.content))
      else config

def parseReclaimPriorityKillableSystemAppsConfig (root : XmlNode) (config : ReclaimPriorityConfig) :
    ReclaimPriorityConfig :=
  if !checkNode root || !hasChild root then config else parseKillableNodes root.children config

/-- The loop over the important applications, which passes elements of other names by. -/
def parseImportantNodes : List XmlNode → ReclaimPriorityConfig → ReclaimPriorityConfig
  | [], config => config
  | node :: rest, config =>
      if !checkNode node then config
      else if node.name = "importantBgApp" then
        let param := (getModuleParam node.children ∅).2
        let procName := setStringParam param "procName" []
        let minPriority := setIntParam param "minPriority" (reclaimPriorityMax + 1)
        parseImportantNodes rest (config.addImportantBgApp (String.ofList procName) minPriority)
      else parseImportantNodes rest config

def parseReclaimPriorityImportantBgAppsConfig (root : XmlNode) (config : ReclaimPriorityConfig) :
    ReclaimPriorityConfig :=
  if !checkNode root || !hasChild root then config else parseImportantNodes root.children config

/-- The loop over the nodes of the section. -/
def parseNodes : List XmlNode → ReclaimPriorityConfig → ReclaimPriorityConfig
  | [], config => config
  | node :: rest, config =>
      if !checkNode node then config
      else if node.name = "killalbeSystemApps" then
        parseNodes rest (parseReclaimPriorityKillableSystemAppsConfig node config)
      else if node.name = "importantBgApps" then
        parseNodes rest (parseReclaimPriorityImportantBgAppsConfig node config)
      else config

def parseConfig (root : XmlNode) (config : ReclaimPriorityConfig) : ReclaimPriorityConfig :=
  if !checkNode root || !hasChild root then config else parseNodes root.children config

end ReclaimPriorityConfig

abbrev PurgeWhiteAppSet := ExtTreeSet String

namespace PurgeablememConfig

/-- The loop over the nodes, which ends at the first that is refused. Of a list one name is read. -/
def parseNodes : List XmlNode → PurgeWhiteAppSet → PurgeWhiteAppSet
  | [], purgeWhiteAppSet => purgeWhiteAppSet
  | node :: rest, purgeWhiteAppSet =>
      if !checkNode node then purgeWhiteAppSet
      else
        let param := (getModuleParam node.children ∅).2
        if node.name = "purgeWhiteAppList" then
          let procName := setStringParam param "procName" []
          parseNodes rest (purgeWhiteAppSet.insert (String.ofList procName))
        else parseNodes rest purgeWhiteAppSet

def parseConfig (root : XmlNode) (purgeWhiteAppSet : PurgeWhiteAppSet) : PurgeWhiteAppSet :=
  if !checkNode root || !hasChild root then purgeWhiteAppSet
  else parseNodes root.children purgeWhiteAppSet

end PurgeablememConfig

end MemMgr
