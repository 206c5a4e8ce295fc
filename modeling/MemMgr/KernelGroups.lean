import MemMgr.GroupRequests

/-! The groups of the kernel beside those of memory. What the kernel makes of a write is its own
affair, and each request may fail; after a change the file of the group is read again. -/
namespace MemMgr

/-- What the kernel holds of a group, in numbers that its file can be read with. -/
structure KernelGroup where
  score : Nat
  ratios : ReclaimRatios
  fits : Memcg.ParamsFit score ratios

/-- What a new group holds, and what is made of a write. -/
structure GroupKernel where
  made : KernelGroup
  write : MemcgFile → String → KernelGroup → KernelGroup

abbrev KernelGroups := Int → Option KernelGroup

def KernelGroup.shown (held : KernelGroup) : List Char := Memcg.paramContent held.score held.ratios

namespace ReclaimStrategyManager

section Kernel

variable (groupKernel : GroupKernel) (reclaimConfigSet : ReclaimConfigSet)

/-- What a request makes of the groups. A directory that is left from before is kept. -/
def grant (answers : GroupAnswers) (groups : KernelGroups) : GroupRequest → KernelGroups
  | .createDir userId =>
      if answers.createDir then
        Function.update groups userId (some ((groups userId).getD groupKernel.made))
      else groups
  | .removeDir userId => if answers.removeDir then Function.update groups userId none else groups
  | .write userId file content =>
      if answers.kernel.writeToFile file then
        Function.update groups userId ((groups userId).map (groupKernel.write file content))
      else groups
  | .addProc _ _ => groups
  | .writeRoot _ _ => groups

/-- The account whose group is read again. -/
def readBack : StrategyTask → Option Int
  | .handleAccountPriorityChanged accountId _ => some accountId
  | .handleAppStateChanged _ => none
  | .handleAccountDied _ => none

/-- The answers to a task, with the file of the group as it is after the requests. -/
def shownAnswers (m : MemcgMgr) (groups : KernelGroups) (input : RanTask) : GroupAnswers :=
  let after := (performStep reclaimConfigSet m input).2.foldl (grant groupKernel input.2) groups
  { input.2 with
    kernel.content := (readBack input.1).bind fun accountId => (after accountId).map KernelGroup.shown }

/-- The manager and the kernel, and what has been asked for so far. -/
structure WithKernel where
  manager : ReclaimStrategyManager
  groups : KernelGroups
  asked : List GroupRequest

def WithKernel.step (s : WithKernel) (op : Op) : WithKernel :=
  match op, s.manager.handler with
  | .runTask answers, task :: _ =>
      let answers := shownAnswers groupKernel reclaimConfigSet s.manager.memcgMgr s.groups (task, answers)
      let (manager, asked) := s.manager.step reclaimConfigSet (.runTask answers)
      ⟨manager, asked.foldl (grant groupKernel answers) s.groups, s.asked ++ asked⟩
  | op, _ => { s with manager := (s.manager.step reclaimConfigSet op).1 }

abbrev WithKernel.run (s : WithKernel) (ops : List Op) : WithKernel :=
  ops.foldl (WithKernel.step groupKernel reclaimConfigSet) s

end Kernel

def changeEvent : GroupRequest → Option (OpenClose.Event Int)
  | .write userId _ _ => some (userId, true)
  | .createDir userId => some (userId, false)
  | _ => none

/-- Something was written to the group since it was made. -/
def changed (userId : Int) (requests : List GroupRequest) : Bool :=
  OpenClose.flag userId (requests.filterMap changeEvent)

/-- What memory holds of a group, beside the kernel: a group that was changed holds what the kernel
holds, and any other is as it was made, or has no ratios to change. -/
structure Follows (userId : Int) (group : UserMemcg) (held : Option KernelGroup) (set : Bool) : Prop where
  named : group.userId = userId
  hasRatios : set = true → group.memcg.reclaimRatios.isSome = true
  agrees : set = true → ∀ kernelGroup, held = some kernelGroup →
    group.memcg = ⟨kernelGroup.score, some kernelGroup.ratios⟩
  unchanged : set = false → group.memcg.reclaimRatios = none ∨ group.memcg = .create true

def Followed (m : MemcgMgr) (groups : KernelGroups) (asked : List GroupRequest) : Prop :=
  ∀ userId group, m.getUserMemcg userId = some group →
    Follows userId group (groups userId) (changed userId asked)

variable {groupKernel : GroupKernel} {reclaimConfigSet : ReclaimConfigSet} {m : MemcgMgr}
variable {groups after : KernelGroups} {asked : List GroupRequest} {answers : GroupAnswers}
variable {userId : Int} {input : RanTask}

/-- Only a creation, a removal and an update of the group of an account decide whether it
was changed. -/
theorem changed_concat (request : GroupRequest) : changed userId (asked ++ [request]) =
    match changeEvent request with
    | none => changed userId asked
    | some (other, set) => if other = userId then set else changed userId asked := by
  rw [changed, List.filterMap_append]
  cases hEvent : changeEvent request with
  | none => simp [hEvent, changed]
  | some event =>
      obtain ⟨other, set⟩ := event
      simp [hEvent, changed]

/-- Writes to a group, and what they leave alone. -/
theorem changed_writes (writes : List (MemcgFile × String)) (k : Int) :
    changed k (asked ++ writes.map fun (file, content) => .write userId file content) =
      if userId = k ∧ writes ≠ [] then true else changed k asked := by
  induction writes using List.reverseRecOn with
  | nil => simp
  | append_singleton writes write ih =>
      rw [List.map_append, ← List.append_assoc, List.map_singleton, changed_concat, ih]
      dsimp only [changeEvent]
      split_ifs <;> simp_all

/-- Writes to the files of one account leave the groups of the others alone. -/
theorem grant_writes_of_ne {k : Int} (hKey : k ≠ userId) (writes : List (MemcgFile × String)) :
    (writes.map fun (file, content) => GroupRequest.write userId file content).foldl
      (grant groupKernel answers) groups k = groups k := by
  induction writes generalizing groups with
  | nil => rfl
  | cons write writes ih =>
      rw [List.map_cons, List.foldl_cons, ih, grant]
      split_ifs
      · rw [Function.update_of_ne hKey]
      · rfl

section Steps

/-- A group that was just created has nothing to agree on with the kernel yet. -/
theorem follows_create (userId : Int) (make : Bool) (held : Option KernelGroup) :
    Follows userId ⟨userId, .create make⟩ held false := by
  refine ⟨rfl, by simp, by simp, fun _ => ?_⟩
  cases make with
  | false => exact Or.inl rfl
  | true => exact Or.inr rfl

/-- A process that is added makes at most a group that nothing was written to. -/
theorem Followed.addProcToMemcg (h : Followed m groups asked) (pid : Nat)
    (hSame : ∀ k group, m.getUserMemcg k = some group → after k = groups k) :
    Followed (m.addProcToMemcg answers pid userId).1 after
      (asked ++ (m.addProcToMemcg answers pid userId).2.2) := by
  have hGet := fun k => @getUserMemcg_addProcToMemcg m answers pid userId k
  cases hOld : m.getUserMemcg userId with
  | some old =>
      rw [addProcToMemcg_of_some hOld]
      intro k group hGroup
      rw [hSame k group hGroup, changed_concat]
      exact h k group hGroup
  | none =>
      intro k group hGroup
      rw [hGet] at hGroup
      rw [addProcToMemcg_of_none hOld]
      cases hMake : answers.makeUserMemcg with
      | false =>
          rw [hMake, if_neg (by simp)] at hGroup
          rw [if_pos rfl, List.append_nil, hSame k group hGroup]
          exact h k group hGroup
      | true =>
          have hChanged : changed k (asked ++ [.createDir userId, .addProc userId pid]) =
              if userId = k then false else changed k asked := by
            rw [← List.singleton_append, ← List.append_assoc, changed_concat, changed_concat]
            rfl
          rw [if_neg (by simp)]
          dsimp only
          rw [hChanged]
          split_ifs with hKey
          · rw [if_pos ⟨hKey, hMake⟩, ← hKey, hOld, Option.none_or] at hGroup
            obtain rfl := Option.some.inj hGroup
            rw [← hKey]
            exact follows_create userId _ _
          · rw [if_neg fun hMade => hKey hMade.1] at hGroup
            rw [hSame k group hGroup]
            exact h k group hGroup

/-- A removal keeps memory and kernel in agreement. -/
theorem Followed.removeUserMemcg (h : Followed m groups asked)
    (hSame : ∀ k, k ≠ userId → after k = groups k) :
    Followed (m.removeUserMemcg userId).1 after (asked ++ (m.removeUserMemcg userId).2.2) := by
  intro k group hGroup
  rw [getUserMemcg_removeUserMemcg] at hGroup
  split_ifs at hGroup with hKey
  have hChanged : changed k (asked ++ (m.removeUserMemcg userId).2.2) = changed k asked := by
    rw [MemcgMgr.removeUserMemcg]
    cases m.getUserMemcg userId with
    | none => simp
    | some old => exact changed_concat _
  rw [hChanged, hSame k (Ne.symm hKey)]
  exact h k group hGroup

/-- Which writes are attempted depends only on whether the score could be written. -/
theorem writes_eq_of_some {kernel : MemcgKernel} {score : Int} {ratios : ReclaimRatios} :
    (Memcg.setScoreAndReclaimRatiosToKernel kernel ⟨score, some ratios⟩).writes =
      if kernel.writeToFile .appScore = true then
        [(.appScore, toString score)] ++ [(.zswapdSingleMemcgParam, ratios.numsToString)]
      else [(.appScore, toString score)] := by
  rw [Memcg.setScoreAndReclaimRatiosToKernel]
  dsimp only
  split
  · rfl
  · split_ifs <;> rfl

/-- What an update asks for is a write at least, if there are ratios. -/
theorem told_update {score : Int} {ratios : ReclaimRatios} {old : UserMemcg}
    (hOld : m.getUserMemcg userId = some old) :
    ∃ writes : List (MemcgFile × String),
      (m.updateMemcgScoreAndReclaimRatios answers userId score ratios).2.2 =
          writes.map (fun (file, content) => .write old.userId file content) ∧
        (writes ≠ [] ↔ old.memcg.reclaimRatios.isSome = true) := by
  rw [MemcgMgr.updateMemcgScoreAndReclaimRatios, hOld]
  dsimp only
  rw [Memcg.setReclaimRatios, Memcg.setScore]
  cases hRatios : old.memcg.reclaimRatios with
  | none => exact ⟨[], rfl, by simp⟩
  | some before =>
      refine ⟨_, rfl, ?_⟩
      dsimp only
      rw [writes_eq_of_some]
      split_ifs <;> simp

/-- An update leaves what the kernel shows, if it shows the group. -/
theorem Follows.updated {old : UserMemcg} {held shown : Option KernelGroup} {set : Bool} {score : Int}
    {ratios : ReclaimRatios} {kernel : MemcgKernel} (h : Follows userId old held set)
    (hShown : kernel.content = shown.map KernelGroup.shown) :
    Follows userId { old with memcg := updated kernel score ratios old.memcg } shown
      (if old.memcg.reclaimRatios.isSome = true then true else set) := by
  cases hRatios : old.memcg.reclaimRatios with
  | none =>
      have hSet : set = false := by
        cases set with
        | false => rfl
        | true => simpa [hRatios] using h.hasRatios rfl
      rw [hSet, updated_eq, hRatios]
      exact ⟨h.named, by simp, by simp, fun _ => Or.inl rfl⟩
  | some before =>
      rw [updated_eq, hRatios, if_pos Option.isSome_some]
      refine ⟨h.named, fun _ => isSome_setScoreAndReclaimRatiosToKernel, ?_, by simp⟩
      intro _ kernelGroup hHeld
      rw [hHeld] at hShown
      have hRead : Memcg.readScoreAndReclaimRatiosFromKernel kernel.content =
          some ((kernelGroup.score : Int), kernelGroup.ratios) := by
        rw [hShown]
        exact Memcg.readScore_paramContent kernelGroup.fits
      exact Memcg.memcg_of_read hRead

/-- A group is changed to what the kernel then holds, if it has the group. -/
theorem Followed.update {score : Int} {ratios : ReclaimRatios} (h : Followed m groups asked)
    (hSame : ∀ k, k ≠ userId → after k = groups k)
    (hShown : answers.kernel.content = (after userId).map KernelGroup.shown) :
    Followed (m.updateMemcgScoreAndReclaimRatios answers userId score ratios).1 after
      (asked ++ (m.updateMemcgScoreAndReclaimRatios answers userId score ratios).2.2) := by
  have hGet := fun k => @getUserMemcg_update m answers userId score ratios k
  intro k group hGroup
  rw [hGet] at hGroup
  cases hOld : m.getUserMemcg userId with
  | none =>
      rw [MemcgMgr.updateMemcgScoreAndReclaimRatios, hOld]
      split_ifs at hGroup with hKey
      · rw [← hKey, hOld] at hGroup
        cases hGroup
      · rw [List.append_nil, hSame k (Ne.symm hKey)]
        exact h k group hGroup
  | some old =>
      obtain ⟨writes, hTold, hSome⟩ := @told_update m answers userId score ratios old hOld
      rw [hTold, (h userId old hOld).named, changed_writes]
      split_ifs at hGroup with hKey
      · subst hKey
        rw [hOld] at hGroup
        obtain rfl := Option.some.inj hGroup
        simp only [true_and, hSome]
        exact (h userId old hOld).updated hShown
      · rw [if_neg fun hBoth => hKey hBoth.1, hSame k (Ne.symm hKey)]
        exact h k group hGroup

/-- What the read-back finds does not change what is asked of the kernel. -/
theorem told_update_content (score : Int) (ratios : ReclaimRatios) (content : Option (List Char)) :
    (m.updateMemcgScoreAndReclaimRatios { answers with kernel.content := content } userId score ratios).2.2 =
      (m.updateMemcgScoreAndReclaimRatios answers userId score ratios).2.2 := by
  rw [MemcgMgr.updateMemcgScoreAndReclaimRatios, MemcgMgr.updateMemcgScoreAndReclaimRatios]
  cases m.getUserMemcg userId with
  | none => rfl
  | some old =>
      dsimp only
      rw [Memcg.setReclaimRatios, Memcg.setScore]
      cases old.memcg.reclaimRatios with
      | none => rfl
      | some before =>
          dsimp only
          rw [writes_eq_of_some, writes_eq_of_some]

/-- What a task asks for does not depend on what the kernel shows. -/
theorem told_content (task : StrategyTask) (content : Option (List Char)) :
    (performStep reclaimConfigSet m (task, { answers with kernel.content := content })).2 =
      (performStep reclaimConfigSet m (task, answers)).2 := by
  cases task with
  | handleAppStateChanged reclaimPara => rfl
  | handleAccountDied accountId => rfl
  | handleAccountPriorityChanged accountId priority =>
      simp only [performStep, perform, handleAccountPriorityChanged]
      split_ifs
      · rfl
      · rfl
      · split
        · rfl
        · exact told_update_content _ _ content

/-- The kernel changes no group but that of the user. -/
theorem grant_removeUserMemcg (h : Followed m groups asked) {k : Int} (hKey : k ≠ userId) :
    (m.removeUserMemcg userId).2.2.foldl (grant groupKernel answers) groups k = groups k := by
  rw [MemcgMgr.removeUserMemcg]
  cases hOld : m.getUserMemcg userId with
  | none => rfl
  | some old =>
      have hNamed := (h userId old hOld).named
      simp only [List.foldl_cons, List.foldl_nil, grant, hNamed]
      split_ifs
      · exact Function.update_of_ne hKey _ _
      · rfl

/-- An update writes to no group but that of its own account. -/
theorem grant_update (h : Followed m groups asked) {k : Int} (hKey : k ≠ userId) {score : Int}
    {ratios : ReclaimRatios} {kernelAnswers : GroupAnswers} :
    (m.updateMemcgScoreAndReclaimRatios answers userId score ratios).2.2.foldl
      (grant groupKernel kernelAnswers) groups k = groups k := by
  cases hOld : m.getUserMemcg userId with
  | none =>
      rw [MemcgMgr.updateMemcgScoreAndReclaimRatios, hOld]
      rfl
  | some old =>
      obtain ⟨writes, hTold, -⟩ := @told_update m answers userId score ratios old hOld
      rw [hTold, (h userId old hOld).named, grant_writes_of_ne hKey]

/-- A new group takes nothing from the known ones. -/
theorem grant_addProcToMemcg (pid : Nat) {k : Int} {group : UserMemcg} (hGroup : m.getUserMemcg k = some group) :
    (m.addProcToMemcg answers pid userId).2.2.foldl (grant groupKernel answers) groups k = groups k := by
  cases hOld : m.getUserMemcg userId with
  | some old =>
      rw [addProcToMemcg_of_some hOld]
      rfl
  | none =>
      have hKey : k ≠ userId := by
        rintro rfl
        rw [hOld] at hGroup
        cases hGroup
      rw [addProcToMemcg_of_none hOld]
      split_ifs
      · rfl
      · simp only [List.foldl_cons, List.foldl_nil, grant]
        split_ifs
        · exact Function.update_of_ne hKey _ _
        · rfl

/-- A change of state adds a process, or does nothing. -/
theorem performStep_appStateChanged (reclaimPara : Option ReclaimParam) :
    performStep reclaimConfigSet m (.handleAppStateChanged reclaimPara, answers) = (m, []) ∨
      ∃ pid userId, performStep reclaimConfigSet m (.handleAppStateChanged reclaimPara, answers) =
        ((m.addProcToMemcg answers pid userId).1, (m.addProcToMemcg answers pid userId).2.2) := by
  cases reclaimPara with
  | none => exact Or.inl rfl
  | some reclaimPara =>
      obtain ⟨pid, accountId, action⟩ := reclaimPara
      simp only [performStep, perform, handleAppStateChanged]
      split_ifs
      · exact Or.inl rfl
      · cases action with
        | createProcessAndApp | createProcessOnly => exact Or.inr ⟨_, _, rfl⟩
        | appDied | appForeground | appBackground | others => exact Or.inl rfl

/-- A change of an application keeps memory and kernel in agreement. -/
theorem Followed.appStateChanged (h : Followed m groups asked) (reclaimPara : Option ReclaimParam)
    (hSame : ∀ k group, m.getUserMemcg k = some group → after k = groups k) :
    Followed (performStep reclaimConfigSet m (.handleAppStateChanged reclaimPara, answers)).1 after
      (asked ++ (performStep reclaimConfigSet m (.handleAppStateChanged reclaimPara, answers)).2) := by
  rcases @performStep_appStateChanged reclaimConfigSet m answers reclaimPara with
    hNothing | ⟨pid, userId, hAdd⟩
  · rw [hNothing, List.append_nil]
    intro k group hGroup
    rw [hSame k group hGroup]
    exact h k group hGroup
  · rw [hAdd]
    exact h.addProcToMemcg pid hSame

/-- What a change of an application asks for writes to no group that the manager knows already. -/
theorem grant_appStateChanged {reclaimPara : Option ReclaimParam} {k : Int} {group : UserMemcg}
    (hGroup : m.getUserMemcg k = some group) :
    (performStep reclaimConfigSet m (.handleAppStateChanged reclaimPara, answers)).2.foldl
      (grant groupKernel answers) groups k = groups k := by
  rcases @performStep_appStateChanged reclaimConfigSet m answers reclaimPara with
    hNothing | ⟨pid, userId, hAdd⟩
  · rw [hNothing]
    rfl
  · rw [hAdd]
    exact grant_addProcToMemcg pid hGroup

/-- A change of priority is an update, or nothing. -/
theorem performStep_priorityChanged (accountId priority : Int) :
    performStep reclaimConfigSet m (.handleAccountPriorityChanged accountId priority, answers) = (m, []) ∨
      ∃ score ratios,
        performStep reclaimConfigSet m (.handleAccountPriorityChanged accountId priority, answers) =
          ((m.updateMemcgScoreAndReclaimRatios answers accountId score ratios).1,
            (m.updateMemcgScoreAndReclaimRatios answers accountId score ratios).2.2) := by
  simp only [performStep, perform, handleAccountPriorityChanged]
  split_ifs
  · exact Or.inl rfl
  · exact Or.inl rfl
  · split
    · exact Or.inl rfl
    · exact Or.inr ⟨_, _, rfl⟩

/-- What a task does to memory and to the kernel. -/
theorem Followed.task (h : Followed m groups asked) (input : RanTask) :
    let answers := shownAnswers groupKernel reclaimConfigSet m groups input
    let told := performStep reclaimConfigSet m (input.1, answers)
    Followed told.1 (told.2.foldl (grant groupKernel answers) groups) (asked ++ told.2) := by
  obtain ⟨task, answers⟩ := input
  cases task with
  | handleAccountDied accountId => exact h.removeUserMemcg fun k hKey => grant_removeUserMemcg h hKey
  | handleAccountPriorityChanged accountId priority =>
      generalize hAnswers : shownAnswers groupKernel reclaimConfigSet m groups
        (.handleAccountPriorityChanged accountId priority, answers) = shownBack
      have hTold : (performStep reclaimConfigSet m
          (.handleAccountPriorityChanged accountId priority, shownBack)).2 =
          (performStep reclaimConfigSet m (.handleAccountPriorityChanged accountId priority, answers)).2 := by
        rw [← hAnswers]
        exact told_content _ _
      dsimp only
      have hContent : shownBack.kernel.content =
          ((performStep reclaimConfigSet m
            (.handleAccountPriorityChanged accountId priority, shownBack)).2.foldl
              (grant groupKernel shownBack) groups accountId).map KernelGroup.shown := by
        rw [hTold, ← hAnswers]
        rfl
      rcases @performStep_priorityChanged reclaimConfigSet m shownBack accountId priority with
        hNothing | ⟨score, ratios, hUpdate⟩
      · rw [hNothing]
        simpa using h
      · rw [hUpdate] at hContent ⊢
        exact h.update (fun k hKey => grant_update h hKey) hContent
  | handleAppStateChanged reclaimPara =>
      exact h.appStateChanged reclaimPara fun k group hGroup => grant_appStateChanged hGroup

/-- One task keeps memory and kernel in agreement. -/
theorem Followed.step {s : WithKernel} (h : Followed s.manager.memcgMgr s.groups s.asked) (op : Op) :
    Followed (s.step groupKernel reclaimConfigSet op).manager.memcgMgr
      (s.step groupKernel reclaimConfigSet op).groups (s.step groupKernel reclaimConfigSet op).asked := by
  obtain ⟨⟨initialized, m, handler⟩, groups, asked⟩ := s
  cases op with
  | runTask answers =>
      cases handler with
      | nil => exact h
      | cons task handler => exact Followed.task h (task, answers)
  | notifyAppStateChanged reclaimPara =>
      cases initialized <;> exact h
  | notifyAccountDied accountId =>
      simp only [WithKernel.step, ReclaimStrategyManager.step, notifyAccountDied]
      split_ifs <;> exact h
  | notifyAccountPriorityChanged accountId priority =>
      simp only [WithKernel.step, ReclaimStrategyManager.step, notifyAccountPriorityChanged]
      split_ifs <;> exact h

/-- Any number of tasks keep them in agreement. -/
theorem Followed.run {s : WithKernel} (h : Followed s.manager.memcgMgr s.groups s.asked) (ops : List Op) :
    Followed (s.run groupKernel reclaimConfigSet ops).manager.memcgMgr
      (s.run groupKernel reclaimConfigSet ops).groups (s.run groupKernel reclaimConfigSet ops).asked := by
  induction ops generalizing s with
  | nil => exact h
  | cons op ops ih => exact ih (h.step op)

/-- The tasks of the start write to no group. -/
theorem Followed.appStateTasks (h : Followed m groups asked) {tasks : List RanTask}
    (hTasks : ∀ input ∈ tasks, ∃ reclaimPara, input.1 = .handleAppStateChanged reclaimPara) :
    Followed (Transducer.finalState (performStep reclaimConfigSet) m tasks) groups
      (asked ++ Transducer.outputs (performStep reclaimConfigSet) m tasks) := by
  induction tasks generalizing m asked with
  | nil => simpa using h
  | cons input tasks ih =>
      obtain ⟨⟨reclaimPara, hInput⟩, hRest⟩ := List.forall_mem_cons.mp hTasks
      obtain ⟨task, answers⟩ := input
      obtain rfl : task = .handleAppStateChanged reclaimPara := hInput
      rw [Transducer.outputs, ← List.append_assoc]
      exact ih (h.appStateChanged reclaimPara fun _ _ _ => rfl) hRest

end Steps

/-- Whatever fails, after each run memory holds what the kernel holds of every group that was
changed. -/
theorem memcg_of_changed (groupKernel : GroupKernel) (reclaimConfigSet : ReclaimConfigSet)
    (makeHandler makeRootMemcg makeReclaimRatios : Bool) (kernel : MemcgKernel)
    (processes : EarlierProcesses) (groups : KernelGroups) (ops : List Op) :
    let m := init makeHandler kernel processes (.create makeRootMemcg makeReclaimRatios)
    let s := (WithKernel.mk m.1 groups m.2).run groupKernel reclaimConfigSet ops
    ∀ userId group, s.manager.memcgMgr.getUserMemcg userId = some group →
      (changed userId s.asked = true → ∀ held, s.groups userId = some held →
        group.memcg = ⟨held.score, some held.ratios⟩) ∧
      (changed userId s.asked = false →
        group.memcg.reclaimRatios = none ∨ group.memcg = .create true) := by
  obtain ⟨root, writes, -, hStart, hTold, -⟩ :=
    init_eq reclaimConfigSet makeHandler makeRootMemcg makeReclaimRatios kernel processes
  have hNone : Followed ⟨root, ∅⟩ groups (rootRequests writes) := by
    intro userId group hGroup
    simp [MemcgMgr.getUserMemcg] at hGroup
  have hTasks : ∀ input ∈ (if (init makeHandler kernel processes
      (.create makeRootMemcg makeReclaimRatios)).1.initialized then initTasks processes else []),
      ∃ reclaimPara, input.1 = .handleAppStateChanged reclaimPara := by
    intro input hInput
    split_ifs at hInput
    · rw [initTasks, List.mem_filterMap] at hInput
      obtain ⟨pid, -, hPid⟩ := hInput
      obtain ⟨uid, -, rfl⟩ := Option.map_eq_some_iff.mp hPid
      exact ⟨_, rfl⟩
    · cases hInput
  have hFirst := @Followed.appStateTasks reclaimConfigSet _ _ _ hNone _ hTasks
  dsimp only at hStart hTold ⊢
  rw [← hStart, ← hTold] at hFirst
  have hRun := @Followed.run groupKernel reclaimConfigSet (.mk _ groups _) hFirst ops
  intro userId group hGroup
  have hFollows := hRun userId group hGroup
  exact ⟨hFollows.agrees, hFollows.unchanged⟩

end ReclaimStrategyManager
end MemMgr
