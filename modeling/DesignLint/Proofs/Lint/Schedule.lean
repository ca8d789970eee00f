import DesignLint.Lint.Workbench
import DesignLint.Proofs.Inference.Memo
import DesignLint.Proofs.Lint.Context
import DesignLint.Proofs.Parse.Outcome
import DesignLint.Proofs.Tree.Depth
import DesignLint.Run.Analysis
import Mathlib.Logic.Function.Basic

/-! The checks of a project with a memo for each file. Files are asked in any order, and each is checked when its turn
comes; what a file's memo holds never shows in an answer, and a file is asked through its own memo only. -/
namespace DesignLint

open Query

namespace Lint

section

variable {s : Subject} {rules : InferenceRules}

/-- A memo of the file that holds the facts of its tree. -/
abbrev Subject.SoundMemo (s : Subject) (rules : InferenceRules) : Memo → Prop := Memo.Sound s.tree rules s.portsAt

theorem computes_checkWrites (sound : Memo → Prop) (ids : List NodeId) :
    Computes sound (checkWrites s ids) (checkWrites s ids) := by
  refine .flatten (fun id => ?_) ids
  refine (Computes.liftTree _).andThen fun found => ?_
  cases found with
  | true => exact .pure _
  | false => exact .pure _

theorem computes_checkReads (sound : Memo → Prop) (ids : List NodeId) :
    Computes sound (checkReads s ids) (checkReads s ids) := by
  refine .flatten (fun id => ?_) ids
  refine (Computes.liftTree _).andThen fun found => ?_
  cases found with
  | none => exact .pure _
  | some _ => exact .pure _

theorem computes_checkProcess (id : NodeId) :
    Computes (s.SoundMemo rules) (checkProcess (Memo.facts s.tree rules) s id)
      (checkProcess (s.tree.facts rules) s id) := by
  refine (Memo.computes_flatWrites id).andThen fun writes => (Memo.computes_flatReads id).andThen fun reads => ?_
  refine (computes_checkWrites _ writes).andThen fun _ => (computes_checkReads _ _).andThen fun _ => ?_
  exact (computes_checkReads _ reads).andThen fun _ => .pure _

theorem computes_checkAssignment (sound : Memo → Prop) (id : NodeId) :
    Computes sound (checkAssignment s id) (checkAssignment s id) :=
  (computes_checkWrites _ _).andThen fun _ => (computes_checkReads _ _).andThen fun _ => .pure _

theorem computes_checkGenerate (sound : Memo → Prop) (id : NodeId) :
    Computes sound (checkGenerate s id) (checkGenerate s id) :=
  (computes_checkReads _ _).andThen fun _ => (computes_checkReads _ _).andThen fun _ => .pure _

/-- What follows once the unit of an instantiation is known. -/
theorem computes_resolved {α : Type} {id : NodeId} {f : Option Ref → Query α} {g : Option Ref → Except Fault α}
    {sound : Memo → Prop}
    (next : ∀ unit, s.portsAt id = .ok (s.design.ports? unit) → Computes sound (f unit) (g unit)) :
    Computes sound (liftTree (s.design.resolveInstance s.file id s.packages s.entities) >>= f)
      (liftTree (s.design.resolveInstance s.file id s.packages s.entities) >>= g) := by
  refine (Computes.liftTree _).bind fun unit run => next unit ?_
  rw [Subject.portsAt]
  cases found : s.design.resolveInstance s.file id s.packages s.entities with
  | error fault =>
    rw [found] at run
    contradiction
  | ok known =>
    rw [found] at run
    cases run
    rfl

theorem computes_checkInstance (id : NodeId) :
    Computes (s.SoundMemo rules) (checkInstance (Memo.facts s.tree rules) s id)
      (checkInstance (s.tree.facts rules) s id) := by
  refine computes_resolved fun unit resolved => ?_
  refine (Memo.computes_instanceWrites resolved).andThen fun writes => (computes_checkWrites _ writes).andThen fun _ => ?_
  exact (Memo.computes_instanceReads resolved).andThen fun reads => (computes_checkReads _ reads).andThen fun _ => .pure _

theorem computes_checkBody (b : Body) :
    Computes (s.SoundMemo rules) (checkBody (Memo.facts s.tree rules) s b) (checkBody (s.tree.facts rules) s b) := by
  refine (Computes.mapM computes_checkProcess _).andThen fun _ => ?_
  refine (Computes.mapM (computes_checkAssignment _) _).andThen fun _ => ?_
  refine (Computes.mapM computes_checkInstance _).andThen fun _ => ?_
  exact (Computes.mapM (computes_checkGenerate _) _).andThen fun _ => .pure _

theorem computes_checkUndeclared :
    Computes (s.SoundMemo rules) (checkUndeclared (Memo.facts s.tree rules) s)
      (checkUndeclared (s.tree.facts rules) s) :=
  .flatten computes_checkBody _

theorem computes_resetByAny (name : Bytes) (processes : List NodeId) :
    Computes (s.SoundMemo rules) (resetByAny (Memo.facts s.tree rules) name processes)
      (resetByAny (s.tree.facts rules) name processes) := by
  induction processes with
  | nil => exact .pure false
  | cons process processes ih =>
    refine (Memo.computes_resets process).andThen fun names => ?_
    cases names.any (sameName · name) with
    | true => exact .pure true
    | false => exact ih

theorem computes_checkReset (b : Body) (signal : NodeId) :
    Computes (s.SoundMemo rules) (checkReset (Memo.facts s.tree rules) s b signal)
      (checkReset (s.tree.facts rules) s b signal) := by
  refine (Memo.computes_registerProcess signal).andThen fun found => ?_
  cases found with
  | none => exact .pure []
  | some process =>
    refine (computes_resetByAny _ _).andThen fun reset => ?_
    cases reset with
    | true => exact .pure []
    | false => exact .pure _

theorem computes_checkResets :
    Computes (s.SoundMemo rules) (checkResets (Memo.facts s.tree rules) s) (checkResets (s.tree.facts rules) s) :=
  .flatten (fun b => .flatten (computes_checkReset b) _) _

/-- The checks give the same findings with and without a memo. -/
theorem computes_checkAll :
    Computes (s.SoundMemo rules) (checkAll (Memo.facts s.tree rules) s) (checkAll (s.tree.facts rules) s) :=
  .andThen computes_checkUndeclared fun _ => .andThen computes_checkResets fun _ => .pure _

end

/-- What a file can be asked through its memo. -/
inductive Inquiry where
  | isRegisterProcess (process : NodeId)
  | resets (process : NodeId)
  | resetsName (process : NodeId) (name : Bytes)
  | isRegister (signal : NodeId)
  /-- The register process of a signal as far as it is known already. -/
  | registerProcess (signal : NodeId)
  | flatWrites (process : NodeId)
  | flatReads (process : NodeId)
  | root (node : NodeId)
  | exported
  | instanceReads (node : NodeId)
  | instanceWrites (node : NodeId)
  | lint

namespace Inquiry

variable {m : Type → Type} [Monad m] [MonadExceptOf Fault m]

/-- Answers a question, given the facts, the roots and the register processes that are known. -/
def reply (facts : Facts m) (rootOf : NodeId → m NodeId) (registered : NodeId → m (Option NodeId)) (s : Subject) :
    Inquiry → m Reply
  | isRegisterProcess process => return .flag (← facts.isRegisterProcess process)
  | resets process => return .texts (← facts.resets process)
  | resetsName process name => return .flag ((← facts.resets process).any (sameName · name))
  | isRegister signal => return .flag (← facts.registerProcess signal).isSome
  | registerProcess signal => return .optional (← registered signal)
  | flatWrites process => return .nodes (← facts.flatWrites process)
  | flatReads process => return .nodes (← facts.flatReads process)
  | root node => return .node (← rootOf node)
  | exported => return .tree s.tree
  | instanceReads node => do
    let unit ← liftTree (s.design.resolveInstance s.file node s.packages s.entities)
    return .nodes (← facts.instanceReads node (s.design.ports? unit))
  | instanceWrites node => do
    let unit ← liftTree (s.design.resolveInstance s.file node s.packages s.entities)
    return .nodes (← facts.instanceWrites node (s.design.ports? unit))
  | lint => return .findings (← checkAll facts s)

/-- The answer through a memo. -/
def ask (rules : InferenceRules) (s : Subject) : Inquiry → Query Reply :=
  reply (Memo.facts s.tree rules) (Memo.rootOf s.tree)
    (fun signal => do return ((← get).registerProcess.lookup signal).getD none) s

/-- The answer by the definitions alone. Register processes may be known already or not. -/
def answer (rules : InferenceRules) (s : Subject) (registered : NodeId → Except Fault (Option NodeId)) :
    Inquiry → Except Fault Reply :=
  reply (s.tree.facts rules) (fun node => do liftTree (s.tree.checkRoot node); return 0) registered s

variable {s : Subject} {rules : InferenceRules}

/-- A register process that is known is the one that the definition gives. -/
theorem registered_cases {memo : Memo} (sound : s.SoundMemo rules memo) (signal : NodeId) :
    (memo.registerProcess.lookup signal).getD none = none ∨
      (s.tree.facts rules).registerProcess signal =
        (.ok ((memo.registerProcess.lookup signal).getD none) : Except Fault _) := by
  cases found : memo.registerProcess.lookup signal with
  | none => exact .inl rfl
  | some known => exact .inr (sound.registerProcess signal known found)

/-- Whatever is in the memo, an answer is that of the definitions; only a question for what is known may find nothing. -/
theorem ask_sound {memo : Memo} (sound : s.SoundMemo rules memo) (q : Inquiry) :
    s.SoundMemo rules (q.ask rules s memo).2 ∧
      ((q.ask rules s memo).1 = q.answer rules s (s.tree.facts rules).registerProcess ∨
        (q.ask rules s memo).1 = q.answer rules s fun _ => .ok none) := by
  have computed {α : Type} {question : Query α} {plain : Except Fault α} {put : α → Reply}
      (computes : Computes (s.SoundMemo rules) question plain) :
      s.SoundMemo rules ((do return put (← question) : Query Reply) memo).2 ∧
        ((do return put (← question) : Query Reply) memo).1 = (do return put (← plain)) := by
    obtain ⟨same, kept⟩ := (computes.andThen fun a => .pure (put a)) memo sound
    exact ⟨kept, same⟩
  cases q with
  | isRegisterProcess process => exact (computed (Memo.computes_isRegisterProcess process)).imp_right .inl
  | resets process => exact (computed (Memo.computes_resets process)).imp_right .inl
  | resetsName process name => exact (computed (Memo.computes_resets process)).imp_right .inl
  | isRegister signal => exact (computed (Memo.computes_registerProcess signal)).imp_right .inl
  | registerProcess signal =>
    refine ⟨sound, ?_⟩
    rcases registered_cases sound signal with unknown | known
    · right
      change .ok (.optional _) = (.ok (.optional none) : Except Fault Reply)
      rw [unknown]
    · left
      change .ok (.optional _) = (do return .optional (← (s.tree.facts rules).registerProcess signal) : Except Fault Reply)
      rw [known]
      rfl
  | flatWrites process => exact (computed (Memo.computes_flatWrites process)).imp_right .inl
  | flatReads process => exact (computed (Memo.computes_flatReads process)).imp_right .inl
  | root node => exact (computed (Memo.computes_rootOf node)).imp_right .inl
  | exported => exact ⟨sound, .inl rfl⟩
  | instanceReads node =>
    obtain ⟨same, kept⟩ := computes_resolved (fun unit resolved =>
      (Memo.computes_instanceReads resolved).andThen fun ids => .pure (Reply.nodes ids)) memo sound
    exact ⟨kept, .inl same⟩
  | instanceWrites node =>
    obtain ⟨same, kept⟩ := computes_resolved (fun unit resolved =>
      (Memo.computes_instanceWrites resolved).andThen fun ids => .pure (Reply.nodes ids)) memo sound
    exact ⟨kept, .inl same⟩
  | lint => exact (computed computes_checkAll).imp_right .inl

end Inquiry
end Lint

open Lint

/-- The memos of the files of a design, by number. -/
abbrev Cells := Nat → Memo

namespace Project

/-- The memos after every node has been asked for its file. -/
def warmCells (p : Project) : Cells := fun file =>
  match p.design.files[file]? with
  | some f => (Memo.warmRoots f.tree {}).2
  | none => {}

/-- Asks a file of the design. -/
def ask (p : Project) (file : Nat) (q : Inquiry) (cells : Cells) : Option (Except Fault Reply) × Cells :=
  match p.design.files[file]? with
  | none => (none, cells)
  | some f =>
    let (reply, memo) := q.ask f.rules (p.subject f file) (cells file)
    (some reply, Function.update cells file memo)

/-- The memos after several questions, in order. -/
def afterAll (p : Project) (cells : Cells) (history : List (Nat × Inquiry)) : Cells :=
  history.foldl (fun cells question => (p.ask question.1 question.2 cells).2) cells

/-- Checks a file through its memo. -/
def check (p : Project) (m : DesignFile × Nat) (cells : Cells) : Except Fault (List Diagnostic) × Cells :=
  let (found, memo) := checkAll (Memo.facts m.1.tree m.1.rules) (p.subject m.1 m.2) (cells m.2)
  (found, Function.update cells m.2 memo)

/-- Checks files in the order given; each outcome is kept under the number of its file. -/
def checkInOrder (p : Project) : List (DesignFile × Nat) → Cells →
    List (Nat × Except Fault (List Diagnostic)) × Cells
  | [], cells => ([], cells)
  | m :: rest, cells =>
    let (found, cells) := p.check m cells
    let (others, cells) := p.checkInOrder rest cells
    ((m.2, found) :: others, cells)

/-- The outcome for a file, from what its checks found. -/
def outcome (ignoreRegions : Bool) (f : DesignFile) : Except Fault (List Diagnostic) → CheckedFile
  | .error fault => ⟨f.tree.path, .error ⟨f.tree.path, FailureKind.analysis.word,
      Bytes.ofString (AnalysisFault.message ⟨f.tree.path, fault⟩)⟩⟩
  | .ok found =>
    let all := unresolvedUses f ++ found
    ⟨f.tree.path, .ok (if ignoreRegions then Region.keepOutside f.tree.text all else all)⟩

/-- The files to check. -/
def toCheck (p : Project) (isThirdParty : String → Bool) : List (DesignFile × Nat) :=
  p.members.filter fun m => !isThirdParty m.1.tree.path

/-- Checks the files in the order given and lists the outcomes in the order of the files. -/
def checkScheduled (p : Project) (options : AnalysisOptions) (isThirdParty : String → Bool)
    (order : List (DesignFile × Nat)) (cells : Cells) : List CheckedFile :=
  let outcomes := (p.checkInOrder order cells).1
  (p.toCheck isThirdParty).map fun m => outcome options.ignoreRegions m.1 ((outcomes.lookup m.2).getD (.ok []))

/-- Every memo holds the facts of its file. -/
def SoundCells (p : Project) (cells : Cells) : Prop :=
  ∀ file f, p.design.files[file]? = some f → (p.subject f file).SoundMemo f.rules (cells file)

variable {p : Project} {cells : Cells}

theorem soundCells_warm (p : Project) : p.SoundCells p.warmCells := by
  intro file f known
  have roots : Computes ((p.subject f file).SoundMemo f.rules) (Memo.warmRoots f.tree) _ :=
    .forM (fun id => (Memo.computes_rootOf id).andThen fun _ => .pure ()) _
  rw [warmCells, known]
  exact (roots {} (Memo.sound_empty _ _ _)).2

theorem soundCells_update (sound : p.SoundCells cells) {file : Nat} {f : DesignFile}
    (known : p.design.files[file]? = some f) {memo : Memo} (kept : (p.subject f file).SoundMemo f.rules memo) :
    p.SoundCells (Function.update cells file memo) := by
  intro other g found
  by_cases same : other = file
  · subst same
    cases known.symm.trans found
    rw [Function.update_self]
    exact kept
  · rw [Function.update_of_ne same]
    exact sound other g found

theorem soundCells_ask (sound : p.SoundCells cells) (file : Nat) (q : Inquiry) : p.SoundCells (p.ask file q cells).2 := by
  rw [ask]
  cases known : p.design.files[file]? with
  | none => exact sound
  | some f => exact soundCells_update sound known (Inquiry.ask_sound (sound file f known) q).1

/-- Whatever has been asked, in whatever order, the memos hold the facts of their files. -/
theorem soundCells_afterAll (sound : p.SoundCells cells) (history : List (Nat × Inquiry)) :
    p.SoundCells (p.afterAll cells history) := by
  induction history generalizing cells with
  | nil => exact sound
  | cons question history ih => exact ih (soundCells_ask sound question.1 question.2)

theorem check_sound (sound : p.SoundCells cells) {m : DesignFile × Nat} (known : p.design.files[m.2]? = some m.1) :
    (p.check m cells).1 = checkAll (m.1.tree.facts m.1.rules) (p.subject m.1 m.2) ∧
      p.SoundCells (p.check m cells).2 := by
  obtain ⟨same, kept⟩ := computes_checkAll (cells m.2) (sound m.2 m.1 known)
  exact ⟨same, soundCells_update sound known kept⟩

/-- The outcomes of a schedule are those of the definitions, one by one. -/
theorem checkInOrder_eq (sound : p.SoundCells cells) {order : List (DesignFile × Nat)}
    (known : ∀ m ∈ order, p.design.files[m.2]? = some m.1) :
    (p.checkInOrder order cells).1 =
      order.map fun m => (m.2, checkAll (m.1.tree.facts m.1.rules) (p.subject m.1 m.2)) := by
  induction order generalizing cells with
  | nil => rfl
  | cons m rest ih =>
    obtain ⟨same, kept⟩ := check_sound sound (known m List.mem_cons_self)
    have others := ih kept fun other member => known other (List.mem_cons_of_mem m member)
    rw [List.map_cons, ← same, ← others]
    rfl

theorem checkFiles_eq (p : Project) (options : AnalysisOptions) (isThirdParty : String → Bool) :
    p.checkFiles options isThirdParty = (p.toCheck isThirdParty).map fun m =>
      outcome options.ignoreRegions m.1 (checkAll (m.1.tree.facts m.1.rules) (p.subject m.1 m.2)) := by
  refine List.map_congr_left fun m _ => ?_
  simp only [findings]
  generalize (checkAll (m.1.tree.facts m.1.rules) (p.subject m.1 m.2) : Except Fault (List Diagnostic)) = checked
  cases checked <;> rfl

theorem known_of_mem_members {m : DesignFile × Nat} (member : m ∈ p.members) : p.design.files[m.2]? = some m.1 := by
  obtain ⟨lower, found⟩ := List.mem_zipIdx_iff_le_and_getElem?_sub.mp member
  rw [List.getElem?_drop, Nat.add_sub_of_le lower] at found
  rw [← Array.getElem?_toList]
  exact found

/-- A number stands for one file, so the outcome kept under it is that of the file. -/
theorem lookup_outcome {order : List (DesignFile × Nat)} (known : ∀ m ∈ order, p.design.files[m.2]? = some m.1)
    (found : DesignFile × Nat → Except Fault (List Diagnostic)) {m : DesignFile × Nat} (member : m ∈ order) :
    (order.map fun m => (m.2, found m)).lookup m.2 = some (found m) := by
  induction order with
  | nil => contradiction
  | cons first rest ih =>
    rw [List.map_cons, List.lookup_cons]
    by_cases same : m.2 = first.2
    · have file : m.1 = first.1 := by
        have here := known m member
        rw [same, known first List.mem_cons_self] at here
        exact (Option.some.inj here).symm
      rw [same, beq_self_eq_true, Prod.ext file same]
    · have later : m ∈ rest := (List.mem_cons.mp member).resolve_left fun here => same (congrArg Prod.snd here)
      rw [beq_eq_false_iff_ne.mpr same]
      exact ih (fun other among => known other (List.mem_cons_of_mem first among)) later

/-- Every order of the checks gives the outcomes of the definitions, in the order of the files. -/
theorem checkScheduled_eq (sound : p.SoundCells cells) (options : AnalysisOptions) (isThirdParty : String → Bool)
    {order : List (DesignFile × Nat)} (all : order.Perm (p.toCheck isThirdParty)) :
    p.checkScheduled options isThirdParty order cells = p.checkFiles options isThirdParty := by
  have known : ∀ m ∈ order, p.design.files[m.2]? = some m.1 :=
    fun m member => known_of_mem_members (List.mem_filter.mp (all.mem_iff.mp member)).1
  rw [checkFiles_eq, checkScheduled, checkInOrder_eq sound known]
  refine List.map_congr_left fun m member => ?_
  rw [lookup_outcome known _ (all.mem_iff.mpr member)]
  rfl

/-- In a project whose roots are all found, files may have been asked anything before, in any order: the checks of a
file give the findings of the definitions and change no memo but the file's own, every question gets the answer of the
definitions, and every order of the checks gives the same outcomes, in the order of the files. -/
theorem checks_unaffected_by_history (p : Project) (rooted : ∀ f ∈ p.design.files, f.tree.checkRoots = .ok ())
    (history : List (Nat × Inquiry)) :
    let cells := p.afterAll p.warmCells history
    (∀ m : DesignFile × Nat, p.design.files[m.2]? = some m.1 →
      (p.check m cells).1 = checkAll (m.1.tree.facts m.1.rules) (p.subject m.1 m.2) ∧
      (∀ other, other ≠ m.2 → (p.check m cells).2 other = cells other) ∧
      (∀ q : Inquiry, ∃ reply, (p.ask m.2 q cells).1 = some reply ∧
        (reply = q.answer m.1.rules (p.subject m.1 m.2) (m.1.tree.facts m.1.rules).registerProcess ∨
          reply = q.answer m.1.rules (p.subject m.1 m.2) fun _ => .ok none)) ∧
      ∀ id : Nat, id < m.1.tree.nodes.size → (p.ask m.2 (.root id) cells).1 = some (.ok (.node 0))) ∧
    ∀ (options : AnalysisOptions) (isThirdParty : String → Bool) (order : List (DesignFile × Nat)),
      order.Perm (p.toCheck isThirdParty) →
        p.checkScheduled options isThirdParty order cells = p.checkFiles options isThirdParty := by
  intro cells
  have sound : p.SoundCells cells := soundCells_afterAll (soundCells_warm p) history
  refine ⟨fun m known => ?_, fun options isThirdParty order all => checkScheduled_eq sound options isThirdParty all⟩
  have answered (q : Inquiry) := (Inquiry.ask_sound (sound m.2 m.1 known) q).2
  have asked (q : Inquiry) : (p.ask m.2 q cells).1 = some (q.ask m.1.rules (p.subject m.1 m.2) (cells m.2)).1 := by
    rw [ask, known]
    rfl
  refine ⟨(check_sound sound known).1, fun other ne => Function.update_of_ne ne _ _,
    fun q => ⟨_, asked q, answered q⟩, fun id inside => ?_⟩
  have root : m.1.tree.checkRoot id = .ok () :=
    (Tree.forM_eq_ok_iff.mp (rooted m.1 (Array.mem_of_getElem? known))) id (List.mem_range.mpr inside)
  have file (registered : NodeId → Except Fault (Option NodeId)) :
      (Inquiry.root id).answer m.1.rules (p.subject m.1 m.2) registered = .ok (.node 0) := by
    change (do return Reply.node (← (do liftTree (m.1.tree.checkRoot id); return 0))) = _
    rw [root]
    rfl
  rw [asked]
  rcases answered (.root id) with same | same
  · rw [same, file]
  · rw [same, file]

/-- A register without a reset is found whatever was asked before. -/
theorem checks_unaffected_by_history_register :
    ∃ t, Tree.parse "a.vhd" (Bytes.ofString
        "architecture a of e is signal q, d : bit; begin
         process (d) begin if d'event then q <= d; end if; end process;
         u : entity work.f port map (x => q); end;") = .ok t ∧
      let p : Project := ⟨⟨#[{ tree := t }]⟩, {}, []⟩
      let cells := p.afterAll p.warmCells
        [(0, .isRegister 2), (0, .instanceReads 11), (0, .lint), (0, .registerProcess 2), (7, .exported)]
      (p.check ({ tree := t }, 0) cells).1 = .ok [.ofRule .missingReset "a.vhd" (Bytes.ofString "Reset 'q' missing")
        ⟨⟨1, 9⟩, ⟨1, Coordinate.endOfLine⟩⟩] := by
  obtain ⟨t, parsed, shown⟩ := exists_ok_of_any (show (Tree.parse "a.vhd" (Bytes.ofString
        "architecture a of e is signal q, d : bit; begin
         process (d) begin if d'event then q <= d; end if; end process;
         u : entity work.f port map (x => q); end;")).toOption.any (fun t => decide (t.checkRoots = .ok () ∧
          checkAll (t.facts .standard) ⟨⟨#[{ tree := t }]⟩, 0, t, [], ({} : SymbolTable).entity?⟩ =
            (.ok [.ofRule .missingReset "a.vhd" (Bytes.ofString "Reset 'q' missing")
              ⟨⟨1, 9⟩, ⟨1, Coordinate.endOfLine⟩⟩] : Except Fault _))) = true by
      rw [Bytes.ofString_ofList, Bytes.ofString_ofList]
      decide +kernel)
  obtain ⟨roots, missing⟩ := of_decide_eq_true shown
  refine ⟨t, parsed, ?_⟩
  have rooted : ∀ f ∈ (#[{ tree := t }] : Array DesignFile), f.tree.checkRoots = .ok () := by
    intro f member
    rw [List.mem_toArray, List.mem_singleton] at member
    rw [member]
    exact roots
  obtain ⟨checks, _⟩ := checks_unaffected_by_history ⟨⟨#[{ tree := t }]⟩, {}, []⟩ rooted
    [(0, .isRegister 2), (0, .instanceReads 11), (0, .lint), (0, .registerProcess 2), (7, .exported)]
  exact (checks ({ tree := t }, 0) rfl).1.trans missing

end Project
end DesignLint
