import MemMgr.StringParsing
import MemMgr.WaitingBundles

/-! What is read of a process before it is killed. The words of `/proc/<pid>/stat` are parted at
blanks, and the name of the process, which stands second, may hold some. -/
namespace MemMgr

open Words

def pageToKb : Int := 4

def intMax : Int := 2 ^ 31 - 1

/-- `GetPidProcInfo`, with what the two files hold, if they can be read. -/
def getPidProcInfo (pid : Int) (stat statm : Option String) : Option ProcInfo :=
  match stat with
  | none => none
  | some stat =>
      let isStat := streamWords stat.toList
      let statPid := (isStat[0]?).getD []
      let status := (isStat[2]?).getD []
      if statPid ≠ (toString pid).toList then none
      else
        match statm with
        | none => none
        | some statm =>
            let rss := ((streamWords statm.toList)[1]?).getD []
            match stoi rss with
            | none => none
            | some rssValue =>
                if rssValue < 0 ∨ rssValue > intMax / pageToKb then none
                else some ⟨String.ofList status, rssValue * pageToKb⟩

/-- A file of the kernel's form. -/
def statContent (pid : Int) (comm state rest : String) : String :=
  toString pid ++ " (" ++ comm ++ ") " ++ state ++ rest

/-- A state is a word of its own. -/
structure StateField (state rest : String) : Prop where
  notEmpty : state ≠ ""
  word : ∀ c ∈ state.toList, isspace c = false
  ended : ∀ c ∈ rest.toList.head?, isspace c = true

/-- The second of the words that the name makes in its parentheses, if there is one. -/
def secondWord (comm : String) : Option (List Char) :=
  (streamWords ("(" ++ comm ++ ")").toList)[1]?

/-- The state is read, and a process in state D is left alone. -/
structure StateRecognised (pid : Int) (comm state rest : String) : Prop where
  status : ∀ statm procInfo,
    getPidProcInfo pid (some (statContent pid comm state rest)) statm = some procInfo →
      procInfo.status = state
  blocked : state = "D" → ∀ statm killed, killOneProcessByPid
    ⟨getPidProcInfo pid (some (statContent pid comm state rest)) statm, killed⟩ = (0, false)

variable {pid : Int} {comm state rest : String}

theorem isspace_repr (n : Nat) : ∀ c ∈ n.repr.toList, isspace c = false := by
  intro c hMem
  exact isspace_digit (List.all_eq_true.mp (repr_all_isDigit n) c hMem)

/-- A pid is written without blanks. -/
theorem isspace_toString (pid : Int) : ∀ c ∈ (toString pid).toList, isspace c = false := by
  intro c hMem
  rw [Int.toString_eq_repr, Int.repr_eq_if] at hMem
  split_ifs at hMem
  · exact isspace_repr _ c hMem
  · rw [String.toList_append, List.mem_append] at hMem
    rcases hMem with hSign | hDigits
    · obtain rfl := List.mem_singleton.mp hSign
      decide
    · exact isspace_repr _ c hDigits

theorem toString_ne_nil (pid : Int) : (toString pid).toList ≠ [] := by
  rw [Int.toString_eq_repr, Int.repr_eq_if]
  split_ifs
  · simp
  · simp

/-- The words of the file: the process, those of its name, its state and what follows. -/
theorem streamWords_statContent (h : StateField state rest) :
    streamWords (statContent pid comm state rest).toList =
      (toString pid).toList :: (streamWords ("(" ++ comm ++ ")").toList ++
        state.toList :: streamWords rest.toList) := by
  have hContent : (statContent pid comm state rest).toList = (toString pid).toList ++
      ' ' :: (("(" ++ comm ++ ")").toList ++ ' ' :: (state.toList ++ rest.toList)) := by
    simp [statContent]
  have hState : state.toList ≠ [] := by simpa using h.notEmpty
  rw [hContent, streamWords, words_append_sep _ _ (by decide), words_append_sep _ _ (by decide),
    words_of_no_sep (isspace_toString pid) (toString_ne_nil pid),
    words_append_of_no_sep h.word hState h.ended]
  rfl

theorem toList_parenthesised (comm : String) :
    ("(" ++ comm ++ ")").toList = '(' :: (comm.toList ++ [')']) := by simp

/-- A name without blanks is one word. -/
theorem streamWords_of_word (hWord : ∀ c ∈ comm.toList, isspace c = false) :
    streamWords ("(" ++ comm ++ ")").toList = [("(" ++ comm ++ ")").toList] := by
  apply words_of_no_sep
  · intro c hMem
    rw [toList_parenthesised, List.mem_cons, List.mem_append, List.mem_singleton] at hMem
    rcases hMem with rfl | hInside | rfl
    · decide
    · exact hWord c hInside
    · decide
  · rw [toList_parenthesised]
    exact List.cons_ne_nil _ _

/-- A name with a blank makes two words at least, from one parenthesis to the other. -/
theorem streamWords_of_blank (hBlank : ∃ c ∈ comm.toList, isspace c = true) :
    ∃ first second others, streamWords ("(" ++ comm ++ ")").toList = first :: second :: others := by
  obtain ⟨c, hMem, hSpace⟩ := hBlank
  obtain ⟨before, after, hSplit⟩ := List.append_of_mem hMem
  have hTwo : 2 ≤ (streamWords (('(' :: before) ++ c :: (after ++ [')']))).length :=
    @two_le_length_words _ isspace _ _ c '(' ')' hSpace (by simp) (by decide) (by simp) (by decide)
  have hName : ("(" ++ comm ++ ")").toList = ('(' :: before) ++ c :: (after ++ [')']) := by
    rw [toList_parenthesised, hSplit]
    simp
  rw [← hName] at hTwo
  rcases hWords : streamWords ("(" ++ comm ++ ")").toList with _ | ⟨first, _ | ⟨second, others⟩⟩
  · rw [hWords] at hTwo
    exact absurd hTwo (by decide)
  · rw [hWords] at hTwo
    exact absurd hTwo (by simp)
  · exact ⟨first, second, others, rfl⟩

/-- The status of a process is the third word of its file. -/
theorem getPidProcInfo_status {stat : String} {statm : Option String} {procInfo : ProcInfo}
    (hInfo : getPidProcInfo pid (some stat) statm = some procInfo) :
    procInfo.status = String.ofList (((streamWords stat.toList)[2]?).getD []) := by
  unfold getPidProcInfo at hInfo
  dsimp only at hInfo
  split_ifs at hInfo
  cases statm with
  | none => cases hInfo
  | some statm =>
      dsimp only at hInfo
      split at hInfo
      · cases hInfo
      · split_ifs at hInfo
        cases hInfo
        rfl

/-- The file of the kernel's form is taken for one of the process. -/
theorem getPidProcInfo_statContent (h : StateField state rest) :
    ∃ procInfo, getPidProcInfo pid (some (statContent pid comm state rest)) (some "1 1") =
      some procInfo := by
  have hRss : stoi (((streamWords "1 1".toList)[1]?).getD []) = some 1 := by decide
  rw [getPidProcInfo]
  dsimp only
  rw [streamWords_statContent h, if_neg (by simp), hRss]
  exact ⟨_, rfl⟩

/-- The word that is taken for the state. -/
theorem statContent_third (h : StateField state rest) :
    ((streamWords (statContent pid comm state rest).toList)[2]?).getD [] = state.toList ↔
      (∀ c ∈ comm.toList, isspace c = false) ∨ secondWord comm = some state.toList := by
  rw [streamWords_statContent h, secondWord, List.getElem?_cons_succ]
  by_cases hBlank : ∃ c ∈ comm.toList, isspace c = true
  · obtain ⟨first, second, others, hWords⟩ := streamWords_of_blank hBlank
    have hNot : ¬ ∀ c ∈ comm.toList, isspace c = false := by
      obtain ⟨c, hMem, hSpace⟩ := hBlank
      intro hWord
      rw [hWord c hMem] at hSpace
      cases hSpace
    rw [hWords, or_iff_right hNot]
    simp
  · have hWord : ∀ c ∈ comm.toList, isspace c = false := by
      intro c hMem
      rw [← Bool.not_eq_true]
      exact fun hSpace => hBlank ⟨c, hMem, hSpace⟩
    rw [streamWords_of_word hWord]
    exact ⟨fun _ => Or.inl hWord, fun _ => rfl⟩

/-- The state is recognised in just the files of which the name holds no blank, and in those where
the word after the first blank of the name happens to be the state. -/
theorem stateRecognised_iff (pid : Int) (comm : String) (h : StateField state rest) :
    StateRecognised pid comm state rest ↔
      (∀ c ∈ comm.toList, isspace c = false) ∨ secondWord comm = some state.toList := by
  rw [← @statContent_third pid comm state rest h]
  constructor
  · intro hRecognised
    obtain ⟨procInfo, hInfo⟩ := @getPidProcInfo_statContent pid comm state rest h
    have hStatus := hRecognised.status _ procInfo hInfo
    rw [getPidProcInfo_status hInfo] at hStatus
    exact String.toList_ofList.symm.trans (congrArg String.toList hStatus)
  · intro hThird
    have hStatus : ∀ statm procInfo,
        getPidProcInfo pid (some (statContent pid comm state rest)) statm = some procInfo →
          procInfo.status = state := by
      intro statm procInfo hInfo
      rw [getPidProcInfo_status hInfo, hThird, String.ofList_toList]
    refine ⟨hStatus, fun hBlocked statm killed => ?_⟩
    rw [killOneProcessByPid]
    dsimp only
    cases hInfo : getPidProcInfo pid (some (statContent pid comm state rest)) statm with
    | none => rfl
    | some procInfo =>
        dsimp only
        rw [if_pos ((hStatus statm procInfo hInfo).trans hBlocked)]

theorem stateField_of_all (hSome : state ≠ "") (hWord : (state.toList.all fun c => !isspace c) = true)
    (hEnded : rest.toList.head?.all isspace = true) : StateField state rest where
  notEmpty := hSome
  word := by simpa using hWord
  ended := (Option.all_eq_true isspace _).mp hEnded

/-- A sleeping process with a plain name. -/
theorem stateField_sleeping : StateField "S" " 0 0" :=
  stateField_of_all (by decide) (by decide) (by decide)

theorem stateRecognised_init : StateRecognised 1 "init" "S" " 0 0" ↔
    (∀ c ∈ "init".toList, isspace c = false) ∨ secondWord "init" = some "S".toList :=
  stateRecognised_iff 1 "init" stateField_sleeping

/-- A name of two words hides that the process is in state D. -/
theorem not_stateRecognised_twoWords : ∃ pid comm state rest, StateField state rest ∧
    ¬ StateRecognised pid comm state rest := by
  have hState : StateField "D" " 0 0" := stateField_of_all (by decide) (by decide) (by decide)
  refine ⟨1, "a b", "D", " 0 0", hState, fun hRecognised => ?_⟩
  have hLeft := hRecognised.blocked rfl (some "1 1") true
  exact absurd hLeft (by decide)

end MemMgr
