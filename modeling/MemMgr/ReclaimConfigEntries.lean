import Mathlib.Data.List.Perm.Basic
import MemMgr.ReclaimConfig

/-! Which entries a reclaim configuration makes, compared with what each of its elements says
itself. The nodes share one map in which the first text of a name stays, and a comment makes an
entry like an element does. -/
namespace MemMgr

open SearchTree XmlHelper ReclaimConfig

namespace XmlNode

/-- Nothing below the node is refused as a parameter. -/
def accepted (node : XmlNode) : Bool := node.children.all checkNode

/-- The texts of the parameters of this node alone. -/
def ownParam (node : XmlNode) : ModuleParam := (getModuleParam (node.children.filter checkNode) ∅).2

/-- The entry that this node stands for. -/
def own (node : XmlNode) : ZswapdParam := zswapdParamOf node.ownParam

def zswapdParams (root : XmlNode) : List XmlNode := root.children.filter fun node => node.type = .element

end XmlNode

open XmlNode

/-- A section of elements, with comments between them. -/
structure ZswapdConfig (root : XmlNode) : Prop where
  type : root.type = .element
  name : root.name = "reclaimConfig"
  nodes : ∀ node ∈ root.children, node.type = .element ∧ node.name = "ZswapdParam" ∨
    node.type = .comment ∧ node.children = []

/-- No two elements start at the same score. -/
def DistinctMinScores (root : XmlNode) : Prop :=
  (root.zswapdParams.map own).Pairwise fun p1 p2 => p1.minScore ≠ p2.minScore

def ZswapdParam.Covers (param : ZswapdParam) (score : Int) : Prop :=
  param.minScore ≤ score ∧ param.maxScore ≥ score

instance (param : ZswapdParam) (score : Int) : Decidable (param.Covers score) :=
  inferInstanceAs (Decidable (_ ∧ _))

def DisjointRanges (root : XmlNode) : Prop :=
  (root.zswapdParams.map own).Pairwise fun p1 p2 => ∀ score, ¬ (p1.Covers score ∧ p2.Covers score)

/-- One entry for each element, in ascending order, and for disjoint ranges found by score. -/
structure ParsesEach (rebalancing : Rebalancing ZswapdParam) (root : XmlNode) : Prop where
  entries : (inorder (parseConfig rebalancing root .nil)).Perm (root.zswapdParams.map own)
  ascending : Ascending ZswapdParam.minScore (inorder (parseConfig rebalancing root .nil))
  ratios : DisjointRanges root → ∀ node ∈ root.zswapdParams, ∀ score, node.own.Covers score →
    ∀ ratios, getReclaimRatiosByScore (parseConfig rebalancing root .nil) score ratios =
      (true, ⟨node.own.mem2zramRatio, node.own.zram2ufsRatio, node.own.refaultThreshold⟩)

/-- After the first node that gives this parameter, every node agrees with it. -/
def Agreed {β : Type} (key : String) (field : ZswapdParam → β) : List XmlNode → Prop
  | [] => True
  | node :: rest =>
      match node.ownParam[key]? with
      | none => Agreed key field rest
      | some _ => ∀ later ∈ rest, field later.own = field node.own

structure AllAgreed (nodes : List XmlNode) : Prop where
  minScore : Agreed "minScore" ZswapdParam.minScore nodes
  maxScore : Agreed "maxScore" ZswapdParam.maxScore nodes
  mem2zramRatio : Agreed "mem2zramRatio" ZswapdParam.mem2zramRatio nodes
  zram2ufsRatio : Agreed "zram2ufsRatio" ZswapdParam.zram2ufsRatio nodes
  refaultThreshold : Agreed "refaultThreshold" ZswapdParam.refaultThreshold nodes

/-- A comment makes the entry of the last element, which says what the defaults say and then stops
the loop by a node that is no parameter. -/
def StandsIn (nodes : List XmlNode) : Prop :=
  ∃ comment before stopped after, nodes = comment :: (before ++ stopped :: after) ∧
    comment.type = .comment ∧ before.length ≤ 1 ∧
    (∀ node ∈ before, node.type = .element ∧ node.accepted = true) ∧
    stopped.type = .element ∧ stopped.accepted = false ∧ stopped.own = zswapdParamOf ∅ ∧
    ∀ node ∈ after, node.type = .comment

/-- The sections whose elements do not get in each other's way. -/
def KeptApart (root : XmlNode) : Prop :=
  root.zswapdParams = [] ∨
    (∀ node ∈ root.children, node.type = .element ∧ node.accepted = true) ∧ AllAgreed root.children ∨
    StandsIn root.children

/-- The field is read from the text of this name. -/
def ReadsOnly {β : Type} (key : String) (field : ZswapdParam → β) : Prop :=
  ∀ {param param' : ModuleParam}, param[key]? = param'[key]? →
    field (zswapdParamOf param) = field (zswapdParamOf param')

theorem readsOnly_minScore : ReadsOnly "minScore" ZswapdParam.minScore :=
  fun hSame => congrArg (checkScore 0) (setIntParam_congr hSame 0)

theorem readsOnly_maxScore : ReadsOnly "maxScore" ZswapdParam.maxScore :=
  fun hSame => congrArg (checkScore reclaimPriorityMax) (setIntParam_congr hSame _)

theorem readsOnly_mem2zramRatio : ReadsOnly "mem2zramRatio" ZswapdParam.mem2zramRatio :=
  fun hSame => congrArg (checkRatio memcgMem2ZramRatio) (setUnsignedIntParam_congr hSame _)

theorem readsOnly_zram2ufsRatio : ReadsOnly "zram2ufsRatio" ZswapdParam.zram2ufsRatio :=
  fun hSame => congrArg (checkRatio memcgZram2UfsRatio) (setUnsignedIntParam_congr hSame _)

theorem readsOnly_refaultThreshold : ReadsOnly "refaultThreshold" ZswapdParam.refaultThreshold :=
  fun hSame => congrArg (checkRatio memcgRefaultThreshold) (setUnsignedIntParam_congr hSame _)

section Entries

variable {β : Type} {key : String} {field : ZswapdParam → β}
variable {node stopped : XmlNode} {nodes before after rest : List XmlNode} {param : ModuleParam}

/-- An accepted node adds what it says itself to what is known. -/
theorem parsedEntries_cons_accepted (hAccepted : node.accepted = true) (rest : List XmlNode)
    (param : ModuleParam) : ∃ known : ModuleParam,
      (∀ key : String, known[key]? = param[key]?.or node.ownParam[key]?) ∧
      parsedEntries (node :: rest) param = zswapdParamOf known :: parsedEntries rest known := by
  have hFst : (getModuleParam node.children param).1 = true := getModuleParam_fst.trans hAccepted
  have hOwn : node.ownParam = (getModuleParam node.children ∅).2 := by
    rw [ownParam, List.filter_eq_self.mpr (List.all_eq_true.mp hAccepted)]
  refine ⟨(getModuleParam node.children param).2, fun key => ?_, ?_⟩
  · rw [hOwn]
    exact getModuleParam_lookup
  · rw [parsedEntries]
    simp only [hFst, Bool.not_true, Bool.false_eq_true, ↓reduceIte]

/-- The reading stops at the first node that is refused. -/
theorem parsedEntries_cons_refused (hRefused : node.accepted = false) :
    parsedEntries (node :: rest) param = [] := by
  have hFst : (getModuleParam node.children param).1 = false := getModuleParam_fst.trans hRefused
  rw [parsedEntries]
  simp only [hFst, Bool.not_false, ↓reduceIte]

/-- The loop ends at the first node that is refused. -/
theorem parsedEntries_append_refused (hRefused : stopped.accepted = false) :
    parsedEntries (before ++ stopped :: after) param = parsedEntries before param := by
  induction before generalizing param with
  | nil => exact parsedEntries_cons_refused hRefused
  | cons node before ih =>
      simp only [List.cons_append, parsedEntries, ih]

/-- If all nodes are accepted, each gives an entry. -/
theorem length_parsedEntries (hAccepted : ∀ node ∈ nodes, node.accepted = true) :
    (parsedEntries nodes param).length = nodes.length := by
  induction nodes generalizing param with
  | nil => rfl
  | cons node rest ih =>
      obtain ⟨hNode, hRest⟩ := List.forall_mem_cons.mp hAccepted
      obtain ⟨known, -, hEntries⟩ := parsedEntries_cons_accepted hNode rest param
      rw [hEntries, List.length_cons, List.length_cons, ih hRest]

/-- A text that is known stays. -/
theorem field_of_known (hReads : ReadsOnly key field) (hAccepted : ∀ node ∈ nodes, node.accepted = true)
    {text : List Char} (hKnown : param[key]? = some text) :
    (parsedEntries nodes param).map field = nodes.map fun _ => field (zswapdParamOf param) := by
  induction nodes generalizing param with
  | nil => rfl
  | cons node rest ih =>
      obtain ⟨hNode, hRest⟩ := List.forall_mem_cons.mp hAccepted
      obtain ⟨known, hLookup, hEntries⟩ := parsedEntries_cons_accepted hNode rest param
      have hKept : known[key]? = param[key]? := by rw [hLookup, hKnown, Option.some_or]
      rw [hEntries, List.map_cons, List.map_cons, ih hRest (hKept.trans hKnown), hReads hKept]

/-- A node whose parameter was not known yet gets its own. -/
theorem field_of_fresh (hReads : ReadsOnly key field) (hFresh : param[key]? = none)
    {known : ModuleParam} (hLookup : ∀ key : String, known[key]? = param[key]?.or node.ownParam[key]?) :
    known[key]? = node.ownParam[key]? ∧ field (zswapdParamOf known) = field node.own := by
  have hOwn : known[key]? = node.ownParam[key]? := by rw [hLookup, hFresh, Option.none_or]
  exact ⟨hOwn, hReads hOwn⟩

/-- Where all nodes agree with the first on what they name, every entry has the value of
its own node. -/
theorem field_of_agreed (hReads : ReadsOnly key field) (hAccepted : ∀ node ∈ nodes, node.accepted = true)
    (hFresh : param[key]? = none) (hAgreed : Agreed key field nodes) :
    (parsedEntries nodes param).map field = nodes.map fun node => field node.own := by
  induction nodes generalizing param with
  | nil => rfl
  | cons node rest ih =>
      obtain ⟨hNode, hRest⟩ := List.forall_mem_cons.mp hAccepted
      obtain ⟨known, hLookup, hEntries⟩ := parsedEntries_cons_accepted hNode rest param
      obtain ⟨hOwn, hField⟩ := field_of_fresh hReads hFresh hLookup
      rw [hEntries, List.map_cons, List.map_cons, hField]
      rw [Agreed] at hAgreed
      cases hText : node.ownParam[key]? with
      | none =>
          rw [hText] at hAgreed
          rw [ih hRest (hOwn.trans hText) hAgreed]
      | some text =>
          rw [hText] at hAgreed
          rw [field_of_known hReads hRest (hOwn.trans hText), hField]
          exact congrArg _ (List.map_congr_left fun later hLater => (hAgreed later hLater).symm)

/-- The values cannot be exchanged between nodes: what is known is the same for all that follow. -/
theorem agreed_of_perm (hReads : ReadsOnly key field) (hAccepted : ∀ node ∈ nodes, node.accepted = true)
    (hFresh : param[key]? = none)
    (hPerm : ((parsedEntries nodes param).map field).Perm (nodes.map fun node => field node.own)) :
    Agreed key field nodes := by
  induction nodes generalizing param with
  | nil => trivial
  | cons node rest ih =>
      obtain ⟨hNode, hRest⟩ := List.forall_mem_cons.mp hAccepted
      obtain ⟨known, hLookup, hEntries⟩ := parsedEntries_cons_accepted hNode rest param
      obtain ⟨hOwn, hField⟩ := field_of_fresh hReads hFresh hLookup
      rw [hEntries, List.map_cons, List.map_cons, hField] at hPerm
      have hTail := hPerm.cons_inv
      rw [Agreed]
      cases hText : node.ownParam[key]? with
      | none => exact ih hRest (hOwn.trans hText) hTail
      | some text =>
          rw [field_of_known hReads hRest (hOwn.trans hText), hField, List.map_const',
            List.replicate_perm] at hTail
          intro later hLater
          have hMem : field later.own ∈ rest.map fun node => field node.own :=
            List.mem_map_of_mem hLater
          rw [← hTail] at hMem
          exact List.eq_of_mem_replicate hMem

end Entries

theorem ZswapdParam.eq_of_fields {list list' : List ZswapdParam}
    (hMinScore : list.map minScore = list'.map minScore)
    (hMaxScore : list.map maxScore = list'.map maxScore)
    (hMem2zram : list.map mem2zramRatio = list'.map mem2zramRatio)
    (hZram2ufs : list.map zram2ufsRatio = list'.map zram2ufsRatio)
    (hRefault : list.map refaultThreshold = list'.map refaultThreshold) : list = list' := by
  induction list generalizing list' with
  | nil => exact (List.map_eq_nil_iff.mp hMinScore.symm).symm
  | cons param list ih =>
      cases list' with
      | nil => cases hMinScore
      | cons param' list' =>
          simp only [List.map_cons, List.cons.injEq] at hMinScore hMaxScore hMem2zram hZram2ufs hRefault
          rw [ih hMinScore.2 hMaxScore.2 hMem2zram.2 hZram2ufs.2 hRefault.2]
          cases param
          cases param'
          simp_all

section Sections

variable {node first comment stopped : XmlNode} {nodes before after rest : List XmlNode}
variable {param : ModuleParam} {root : XmlNode} {rebalancing : Rebalancing ZswapdParam}

theorem lookup_empty (key : String) : (∅ : ModuleParam)[key]? = none := by simp

theorem parsedEntries_eq_own (hAccepted : ∀ node ∈ nodes, node.accepted = true)
    (hAgreed : AllAgreed nodes) : parsedEntries nodes ∅ = nodes.map own := by
  have hField : ∀ {β : Type} {key : String} {field : ZswapdParam → β}, ReadsOnly key field →
      Agreed key field nodes → (parsedEntries nodes ∅).map field = (nodes.map own).map field := by
    intro β key field hReads hField
    rw [List.map_map]
    exact field_of_agreed hReads hAccepted (lookup_empty key) hField
  exact ZswapdParam.eq_of_fields (hField readsOnly_minScore hAgreed.minScore)
    (hField readsOnly_maxScore hAgreed.maxScore)
    (hField readsOnly_mem2zramRatio hAgreed.mem2zramRatio)
    (hField readsOnly_zram2ufsRatio hAgreed.zram2ufsRatio)
    (hField readsOnly_refaultThreshold hAgreed.refaultThreshold)

/-- The entries are those of the nodes themselves exactly when the nodes agree. -/
theorem parsedEntries_perm_iff (hAccepted : ∀ node ∈ nodes, node.accepted = true) :
    (parsedEntries nodes ∅).Perm (nodes.map own) ↔ AllAgreed nodes := by
  constructor
  · intro hPerm
    have hField : ∀ {β : Type} {key : String} {field : ZswapdParam → β}, ReadsOnly key field →
        Agreed key field nodes := by
      intro β key field hReads
      have hMapped := hPerm.map field
      rw [List.map_map] at hMapped
      exact agreed_of_perm hReads hAccepted (lookup_empty key) hMapped
    exact
      { minScore := hField readsOnly_minScore
        maxScore := hField readsOnly_maxScore
        mem2zramRatio := hField readsOnly_mem2zramRatio
        zram2ufsRatio := hField readsOnly_zram2ufsRatio
        refaultThreshold := hField readsOnly_refaultThreshold }
  · intro hAgreed
    rw [parsedEntries_eq_own hAccepted hAgreed]

theorem allAgreed_of_length_le_one (hLength : nodes.length ≤ 1) : AllAgreed nodes := by
  have hField : ∀ {β : Type} {key : String} {field : ZswapdParam → β}, Agreed key field nodes := by
    intro β key field
    match nodes, hLength with
    | [], _ => trivial
    | [node], _ =>
        rw [Agreed]
        cases node.ownParam[key]? with
        | none => trivial
        | some text => simp
  exact ⟨hField, hField, hField, hField, hField⟩

/-- A comment below the section, which has nothing below itself. -/
theorem parsedEntries_comment (hChildren : node.children = []) :
    parsedEntries (node :: rest) param = zswapdParamOf param :: parsedEntries rest param := by
  rw [parsedEntries, hChildren]
  rfl

/-- A comment repeats the entry before it. -/
theorem element_of_distinct (hAccepted : ∀ node ∈ first :: rest, node.accepted = true)
    (hNodes : ∀ node ∈ rest, node.type = .element ∨ node.children = [])
    (hDistinct : (parsedEntries (first :: rest) param).Pairwise fun p1 p2 => p1.minScore ≠ p2.minScore) :
    ∀ node ∈ rest, node.type = .element := by
  induction rest generalizing first param with
  | nil => simp
  | cons second rest ih =>
      obtain ⟨hFirst, hRest⟩ := List.forall_mem_cons.mp hAccepted
      obtain ⟨hSecond, hLater⟩ := List.forall_mem_cons.mp hNodes
      obtain ⟨known, -, hEntries⟩ := parsedEntries_cons_accepted hFirst (second :: rest) param
      rw [hEntries, List.pairwise_cons] at hDistinct
      refine List.forall_mem_cons.mpr ⟨?_, ih hRest hLater hDistinct.2⟩
      rcases hSecond with hElement | hComment
      · exact hElement
      · have hRepeated := hDistinct.1 (zswapdParamOf known) (by simp [parsedEntries_comment hComment])
        exact absurd rfl hRepeated

/-- With the defaults and the least score of a first element, every further element repeats one. -/
theorem length_le_one_of_distinct (hAccepted : ∀ node ∈ nodes, node.accepted = true)
    (hDistinct : (zswapdParamOf ∅ :: parsedEntries nodes ∅).Pairwise
      fun p1 p2 => p1.minScore ≠ p2.minScore) : nodes.length ≤ 1 := by
  match nodes, hAccepted, hDistinct with
  | [], _, _ => simp
  | [_], _, _ => simp
  | first :: second :: rest, hAccepted, hDistinct =>
      obtain ⟨hFirst, hRest⟩ := List.forall_mem_cons.mp hAccepted
      obtain ⟨hSecond, -⟩ := List.forall_mem_cons.mp hRest
      obtain ⟨known, hLookup, hEntries⟩ := parsedEntries_cons_accepted hFirst (second :: rest) ∅
      obtain ⟨known', hLookup', hEntries'⟩ := parsedEntries_cons_accepted hSecond rest known
      obtain ⟨hOwn, -⟩ := field_of_fresh readsOnly_minScore (lookup_empty _) hLookup
      rw [hEntries, hEntries', List.pairwise_cons, List.pairwise_cons] at hDistinct
      cases hText : first.ownParam["minScore"]? with
      | none =>
          have hSame : known["minScore"]? = (∅ : ModuleParam)["minScore"]? := by
            rw [hOwn, hText, lookup_empty]
          exact absurd (readsOnly_minScore hSame).symm (hDistinct.1 _ List.mem_cons_self)
      | some text =>
          have hSame : known'["minScore"]? = known["minScore"]? := by
            rw [hLookup', hOwn, hText, Option.some_or]
          exact absurd (readsOnly_minScore hSame).symm (hDistinct.2.1 _ List.mem_cons_self)

/-- A stop makes one entry too few, which only a comment makes up for. -/
theorem standsIn_of_perm
    (hNodes : ∀ node ∈ before ++ stopped :: after,
      node.type = .element ∨ node.type = .comment ∧ node.children = [])
    (hBefore : ∀ node ∈ before, node.accepted = true) (hStopped : stopped.accepted = false)
    (hDistinct : (((before ++ stopped :: after).filter fun node => node.type = .element).map own).Pairwise
      fun p1 p2 => p1.minScore ≠ p2.minScore)
    (hPerm : (parsedEntries (before ++ stopped :: after) ∅).Perm
      (((before ++ stopped :: after).filter fun node => node.type = .element).map own)) :
    StandsIn (before ++ stopped :: after) := by
  have hElement : stopped.type = .element := by
    rcases hNodes stopped (by simp) with hElement | ⟨-, hChildren⟩
    · exact hElement
    · rw [accepted, hChildren] at hStopped
      cases hStopped
  rw [parsedEntries_append_refused hStopped] at hPerm
  have hEntries := (hPerm.pairwise_iff (fun h => h.symm)).mpr hDistinct
  have hLength := hPerm.length_eq
  rw [List.filter_append, List.filter_cons_of_pos (by simp [hElement])] at hPerm hLength
  rw [length_parsedEntries hBefore, List.length_map, List.length_append, List.length_cons] at hLength
  cases before with
  | nil => simp at hLength
  | cons comment before =>
      have hTypes : ∀ node ∈ before, node.type = .element :=
        element_of_distinct hBefore (fun node hMem => (hNodes node (by simp [hMem])).imp_right And.right)
          hEntries
      have hFilter : before.filter (fun node => node.type = .element) = before :=
        List.filter_eq_self.mpr (by simpa using hTypes)
      rcases hNodes comment (by simp) with hOther | ⟨hComment, hChildren⟩
      · rw [List.filter_cons_of_pos (by simp [hOther]), hFilter] at hLength
        omega
      · rw [List.filter_cons_of_neg (by simp [hComment]), hFilter] at hPerm hLength
        rw [List.length_cons] at hLength
        have hAfter : after.filter (fun node => node.type = .element) = [] :=
          List.length_eq_zero_iff.mp (by omega)
        have hAccepted : ∀ node ∈ before, node.accepted = true :=
          fun node hMem => hBefore node (List.mem_cons_of_mem _ hMem)
        rw [parsedEntries_comment hChildren] at hEntries hPerm
        have hShort := length_le_one_of_distinct hAccepted hEntries
        rw [parsedEntries_eq_own hAccepted (allAgreed_of_length_le_one hShort), hAfter,
          List.map_append] at hPerm
        have hLast : ([zswapdParamOf ∅] ++ before.map own).Perm ([stopped.own] ++ before.map own) :=
          hPerm.trans List.perm_append_comm
        have hOwn := List.singleton_perm_singleton.mp ((List.perm_append_right_iff _).mp hLast)
        refine ⟨comment, before, stopped, after, rfl, hComment, hShort,
          fun node hMem => ⟨hTypes node hMem, hAccepted node hMem⟩, hElement, hStopped, hOwn.symm, ?_⟩
        intro node hMem
        have hNot := List.filter_eq_nil_iff.mp hAfter node hMem
        rcases hNodes node (by simp [hMem]) with hOther | ⟨hIs, -⟩
        · exact absurd (decide_eq_true hOther) hNot
        · exact hIs

/-- The elements around a stop with only comments after it. -/
theorem filter_of_stop (hComment : comment.type = .comment) (hBefore : ∀ node ∈ before, node.type = .element)
    (hElement : stopped.type = .element) (hAfter : ∀ node ∈ after, node.type = .comment) :
    (comment :: (before ++ stopped :: after)).filter (fun node => node.type = .element) =
      before ++ [stopped] := by
  have hFilterBefore : before.filter (fun node => node.type = .element) = before :=
    List.filter_eq_self.mpr fun node hMem => decide_eq_true (hBefore node hMem)
  have hFilterAfter : after.filter (fun node => node.type = .element) = [] :=
    List.filter_eq_nil_iff.mpr fun node hMem => by simp [hAfter node hMem]
  rw [List.filter_cons_of_neg (by simp [hComment]), List.filter_append, hFilterBefore,
    List.filter_cons_of_pos (by simp [hElement]), hFilterAfter]

theorem perm_of_standsIn
    (hNodes : ∀ node ∈ nodes, node.type = .element ∨ node.type = .comment ∧ node.children = [])
    (hStands : StandsIn nodes) : (parsedEntries nodes ∅).Perm
      ((nodes.filter fun node => node.type = .element).map own) := by
  obtain ⟨comment, before, stopped, after, rfl, hComment, hShort, hBefore, hElement, hStopped, hOwn,
    hAfter⟩ := hStands
  have hChildren : comment.children = [] := by
    rcases hNodes comment List.mem_cons_self with hOther | ⟨-, hChildren⟩
    · rw [hComment] at hOther
      cases hOther
    · exact hChildren
  rw [parsedEntries_comment hChildren, parsedEntries_append_refused hStopped,
    parsedEntries_eq_own (fun node hMem => (hBefore node hMem).2) (allAgreed_of_length_le_one hShort),
    filter_of_stop hComment (fun node hMem => (hBefore node hMem).1) hElement hAfter,
    List.map_append, List.map_cons, hOwn]
  exact (List.perm_append_singleton _ _).symm

theorem zswapdParams_of_elements (hElements : ∀ node ∈ root.children, node.type = .element) :
    root.zswapdParams = root.children :=
  List.filter_eq_self.mpr fun node hMem => decide_eq_true (hElements node hMem)

theorem parsedEntries_children_perm_iff (hConfig : ZswapdConfig root) (hDistinct : DistinctMinScores root) :
    (parsedEntries root.children ∅).Perm (root.zswapdParams.map own) ↔
      (∀ node ∈ root.children, node.type = .element ∧ node.accepted = true) ∧ AllAgreed root.children ∨
      StandsIn root.children := by
  have hNodes : ∀ node ∈ root.children,
      node.type = .element ∨ node.type = .comment ∧ node.children = [] :=
    fun node hMem => (hConfig.nodes node hMem).imp_left And.left
  constructor
  · intro hPerm
    cases hRefused : root.children.find? fun node => !node.accepted with
    | none =>
        have hAccepted : ∀ node ∈ root.children, node.accepted = true := by
          simpa using List.find?_eq_none.mp hRefused
        have hLength := hPerm.length_eq
        rw [length_parsedEntries hAccepted, List.length_map, zswapdParams] at hLength
        have hElements : ∀ node ∈ root.children, node.type = .element :=
          fun node hMem => of_decide_eq_true (List.length_filter_eq_length_iff.mp hLength.symm node hMem)
        rw [zswapdParams_of_elements hElements] at hPerm
        exact Or.inl ⟨fun node hMem => ⟨hElements node hMem, hAccepted node hMem⟩,
          (parsedEntries_perm_iff hAccepted).mp hPerm⟩
    | some stopped =>
        obtain ⟨hStopped, before, after, hSplit, hBefore⟩ := List.find?_eq_some_iff_append.mp hRefused
        rw [DistinctMinScores, zswapdParams] at hDistinct
        rw [zswapdParams] at hPerm
        rw [hSplit] at hNodes hDistinct hPerm ⊢
        exact Or.inr (standsIn_of_perm hNodes (by simpa using hBefore) (by simpa using hStopped)
          hDistinct hPerm)
  · rintro (⟨hAll, hAgreed⟩ | hStands)
    · rw [zswapdParams_of_elements fun node hMem => (hAll node hMem).1]
      exact (parsedEntries_perm_iff fun node hMem => (hAll node hMem).2).mpr hAgreed
    · exact perm_of_standsIn hNodes hStands

theorem hasChild_iff : hasChild root = true ↔ root.zswapdParams ≠ [] := by
  rw [hasChild, zswapdParams, List.any_eq_true, Ne, List.filter_eq_nil_iff]
  simp

/-- What is parsed into a cleared set. -/
theorem inorder_parseConfig (hConfig : ZswapdConfig root) (hSome : root.zswapdParams ≠ []) :
    (inorder (parseConfig rebalancing root .nil)).Perm (parsedEntries root.children ∅) := by
  have hRoot : checkNode root = true := by simp [checkNode, hConfig.type]
  have hInserted : (inorder (parseNodes rebalancing root.children ∅ .nil)).Perm
      (parsedEntries root.children ∅ ++ inorder .nil) := inorder_parseNodes
  rw [parseConfig, hRoot, hasChild_iff.mpr hSome]
  simpa using hInserted

/-- A section without ranges gives none. -/
theorem parseConfig_of_none (hNone : root.zswapdParams = []) :
    parseConfig rebalancing root .nil = .nil := by
  have hChild : hasChild root = false := by simp [← Bool.not_eq_true, hasChild_iff, hNone]
  rw [parseConfig, hChild]
  simp

/-- The ranges are sorted by their least score. -/
theorem sorted_parseConfig : (inorder (parseConfig rebalancing root .nil)).Pairwise
    fun p1 p2 => p1.minScore ≤ p2.minScore := by
  rw [parseConfig]
  split
  · exact List.Pairwise.nil
  · exact sorted_parseNodes List.Pairwise.nil

/-- The ranges of a section are all read exactly when they are kept apart. -/
theorem inorder_parseConfig_perm_iff (hConfig : ZswapdConfig root) (hDistinct : DistinctMinScores root) :
    (inorder (parseConfig rebalancing root .nil)).Perm (root.zswapdParams.map own) ↔ KeptApart root := by
  by_cases hNone : root.zswapdParams = []
  · rw [parseConfig_of_none hNone, hNone]
    exact ⟨fun _ => Or.inl hNone, fun _ => List.Perm.refl _⟩
  · have hParsed : (inorder (parseConfig rebalancing root .nil)).Perm (parsedEntries root.children ∅) :=
      inorder_parseConfig hConfig hNone
    rw [KeptApart, or_iff_right hNone, ← parsedEntries_children_perm_iff hConfig hDistinct]
    exact ⟨hParsed.symm.trans, hParsed.trans⟩

/-- An element whose range has the score is found, if no other has it. -/
theorem getReclaimRatiosByScore_of_perm {reclaimConfigSet : ReclaimConfigSet}
    (hPerm : (inorder reclaimConfigSet).Perm (root.zswapdParams.map own))
    (hDisjoint : DisjointRanges root) (hMem : node ∈ root.zswapdParams) {score : Int}
    (hCovers : node.own.Covers score) (ratios : ReclaimRatios) :
    getReclaimRatiosByScore reclaimConfigSet score ratios =
      (true, ⟨node.own.mem2zramRatio, node.own.zram2ufsRatio, node.own.refaultThreshold⟩) := by
  have hExclusive : (inorder reclaimConfigSet).Pairwise fun p1 p2 =>
      ¬ (decide (p1.minScore ≤ score ∧ p1.maxScore ≥ score) = true ∧
        decide (p2.minScore ≤ score ∧ p2.maxScore ≥ score) = true) := by
    refine (hPerm.pairwise_iff fun hNot hBoth => hNot hBoth.symm).mpr (hDisjoint.imp ?_)
    rintro p1 p2 hApart ⟨hFirst, hSecond⟩
    exact hApart score ⟨of_decide_eq_true hFirst, of_decide_eq_true hSecond⟩
  have hStored : node.own ∈ inorder reclaimConfigSet := hPerm.mem_iff.mpr (List.mem_map_of_mem hMem)
  rw [getReclaimRatiosByScore, find?_eq_some_of_exclusive hExclusive hStored (decide_eq_true hCovers)]
  exact congrArg (Prod.mk true) (ofValues_checked _)

/-- A first least score is kept by all that follow, and two elements without one share it. -/
theorem length_le_two_of_agreed
    (hDistinct : nodes.Pairwise fun first second => first.own.minScore ≠ second.own.minScore)
    (hAgreed : Agreed "minScore" ZswapdParam.minScore nodes) : nodes.length ≤ 2 := by
  match nodes, hDistinct, hAgreed with
  | [], _, _ => simp
  | [_], _, _ => simp
  | [_, _], _, _ => simp
  | first :: second :: third :: rest, hDistinct, hAgreed =>
      obtain ⟨hFirst, hLater⟩ := List.pairwise_cons.mp hDistinct
      obtain ⟨hSecond, -⟩ := List.pairwise_cons.mp hLater
      rw [Agreed] at hAgreed
      cases hText : first.ownParam["minScore"]? with
      | some text =>
          rw [hText] at hAgreed
          exact absurd (hAgreed second List.mem_cons_self).symm (hFirst second List.mem_cons_self)
      | none =>
          rw [hText, Agreed] at hAgreed
          cases hText' : second.ownParam["minScore"]? with
          | some text =>
              rw [hText'] at hAgreed
              exact absurd (hAgreed third List.mem_cons_self).symm (hSecond third List.mem_cons_self)
          | none =>
              exact absurd (readsOnly_minScore (hText.trans hText'.symm))
                (hFirst second List.mem_cons_self)

/-- No section of three elements or more is parsed as it says. -/
theorem KeptApart.length_le_two (hDistinct : DistinctMinScores root) (h : KeptApart root) :
    root.zswapdParams.length ≤ 2 := by
  rcases h with hNone | ⟨hAll, hAgreed⟩ | ⟨comment, before, stopped, after, hNodes, hComment, hShort,
    hBefore, hElement, -, -, hAfter⟩
  · simp [hNone]
  · rw [DistinctMinScores, List.pairwise_map] at hDistinct
    rw [zswapdParams_of_elements fun node hMem => (hAll node hMem).1] at hDistinct ⊢
    exact length_le_two_of_agreed hDistinct hAgreed.minScore
  · rw [zswapdParams, hNodes, filter_of_stop hComment (fun node hMem => (hBefore node hMem).1) hElement
      hAfter, List.length_append]
    exact Nat.succ_le_succ hShort

/-- A parameter with its text. -/
def paramNode (name : String) (content : List Char) : XmlNode :=
  ⟨.element, name, content, [⟨.text, "text", content, []⟩]⟩

def zswapdNode (minScore maxScore mem2zramRatio refaultThreshold : List Char) : XmlNode :=
  ⟨.element, "ZswapdParam", minScore ++ maxScore ++ mem2zramRatio ++ refaultThreshold,
    [paramNode "minScore" minScore, paramNode "maxScore" maxScore,
      paramNode "mem2zramRatio" mem2zramRatio, paramNode "refaultThreshold" refaultThreshold]⟩

/-- The two ranges of the documentation. -/
def twoRanges : XmlNode :=
  ⟨.element, "reclaimConfig", [],
    [zswapdNode ['0'] ['5', '0', '0'] ['6', '0'] ['5', '0'],
      zswapdNode ['5', '0', '1'] ['1', '0', '0', '0'] ['7', '0'] ['6', '0']]⟩

example : twoRanges.zswapdParams.map own = [⟨0, 500, 60, 10, 50⟩, ⟨501, 1000, 70, 10, 60⟩] := by decide

theorem zswapdConfig_twoRanges : ZswapdConfig twoRanges where
  type := rfl
  name := rfl
  nodes := by simp [twoRanges, zswapdNode]

theorem distinctMinScores_twoRanges : DistinctMinScores twoRanges := by
  rw [DistinctMinScores]
  decide

/-- A section is read as the ranges it lists exactly when these are kept apart. -/
theorem parsesEach_iff (hConfig : ZswapdConfig root) (hDistinct : DistinctMinScores root) :
    ParsesEach rebalancing root ↔ KeptApart root := by
  have hEntries : (inorder (parseConfig rebalancing root .nil)).Perm (root.zswapdParams.map own) ↔
      KeptApart root := inorder_parseConfig_perm_iff hConfig hDistinct
  rw [← hEntries]
  constructor
  · exact ParsesEach.entries
  · intro hPerm
    have hDiffer := (hPerm.pairwise_iff fun hNe => hNe.symm).mpr hDistinct
    exact
      { entries := hPerm
        ascending := (sorted_parseConfig.and hDiffer).imp fun h => lt_of_le_of_ne h.1 h.2
        ratios := fun hDisjoint node hMem score hCovers ratios =>
          getReclaimRatiosByScore_of_perm hPerm hDisjoint hMem hCovers ratios }

theorem parsesEach_iff_twoRanges : ParsesEach .none twoRanges ↔ KeptApart twoRanges :=
  parsesEach_iff zswapdConfig_twoRanges distinctMinScores_twoRanges

/-- The second entry repeats the first, since the texts of the first stay. -/
theorem not_parsesEach_twoRanges :
    ZswapdConfig twoRanges ∧ DistinctMinScores twoRanges ∧ ¬ ParsesEach .none twoRanges := by
  refine ⟨zswapdConfig_twoRanges, distinctMinScores_twoRanges, fun hEach => ?_⟩
  have hOther : ¬ (inorder (parseConfig .none twoRanges .nil)).Perm (twoRanges.zswapdParams.map own) := by
    decide
  exact hOther hEach.entries

end Sections
end MemMgr
