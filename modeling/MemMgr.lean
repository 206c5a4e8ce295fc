import MemMgr.Library.Lookup
import MemMgr.Library.SearchTree
import MemMgr.Library.Execution
import MemMgr.Library.Transducer
import MemMgr.UpdateRequest
import MemMgr.MultiAccountManager
import MemMgr.LowMemoryKiller
import MemMgr.Service
import MemMgr.RequestEffects
import MemMgr.DiedProcesses
import MemMgr.HotSwitch
import MemMgr.KernelView
import MemMgr.BundleMinimum
import MemMgr.Prepare
import MemMgr.Library.QueueSearch
import MemMgr.ExtensionSearch
import MemMgr.StatusPriority
import MemMgr.LookupFaults
import MemMgr.SwitchedPriorities
import MemMgr.AccountNotifications
import MemMgr.NandLifeController
import MemMgr.NandLifeQuota
import MemMgr.NandLifeRestarts
import MemMgr.NandLifeAccounting
import MemMgr.Termination
import MemMgr.AbilityStart
import MemMgr.ExtensionTurns
import MemMgr.ExtensionEquation
import MemMgr.AbilityStartTimers
import MemMgr.AbilityStartPriorities
import MemMgr.OlderEvents
import MemMgr.BundleMembers
import MemMgr.WaitingBundles
import MemMgr.KilledProcesses
import MemMgr.WindowVisibilityObserver
import MemMgr.PurgeByPsi
import MemMgr.AppStateSubscribers
import MemMgr.BundlePriorityList
import MemMgr.KillableBundles
import MemMgr.KillRounds
import MemMgr.DanglingBindings
import MemMgr.Library.OpenClose
import MemMgr.BindingCounts
import MemMgr.RecordProperties
import MemMgr.ImportantBounds
import MemMgr.PriorityRange
import MemMgr.Library.Words
import MemMgr.StringParsing
import MemMgr.ProcStat
import MemMgr.FreedMemory
import MemMgr.SubscriberRegistration
import MemMgr.KillLevels
import MemMgr.KillerProgress
import MemMgr.FreshRecords
import MemMgr.AshmUsers
import MemMgr.XmlHelper
import MemMgr.ReclaimConfig
import MemMgr.ReclaimConfigEntries
import MemMgr.Library.DoWhile
import MemMgr.KernelLines
import MemMgr.OomScoreAdjFiles
import MemMgr.ConfigSections
import MemMgr.KillConfig
import MemMgr.MemoryThresholds
import MemMgr.MemmgrConfigManager
import MemMgr.PurgeWhiteApps
import MemMgr.AvailBufferManager
import MemMgr.Memcg
import MemMgr.DumpParams
import MemMgr.DumpCommandDispatcher
import MemMgr.Library.Keyed
import MemMgr.Library.TaskQueue
import MemMgr.MemcgMgr
import MemMgr.UserGroups
import MemMgr.GroupRequests
import MemMgr.MemcgDirectories
import MemMgr.KernelGroups
import MemMgr.Library.Codec
import MemMgr.MessageParcel
import MemMgr.MemMgrCalls
import MemMgr.CallEffects
import MemMgr.PurgeableManager
import MemMgr.SubscriberMessages
import MemMgr.Library.DelayedSimulation
import MemMgr.PurgeableInterleavings
import MemMgr.PurgeTriggers
import MemMgr.AppStateSubscriberCalls
import MemMgr.SubscriberDelivery
import MemMgr.MemMgrEventCenter
import MemMgr.EventRegistrations
import MemMgr.SettledRegistrations
import MemMgr.RegistrationCounts
import MemMgr.ProcessStatus
import MemMgr.StatusNotices
import MemMgr.StatusHistory
import MemMgr.SystemNotifications
import MemMgr.WatchedProcesses
