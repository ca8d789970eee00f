import DesignLint.Proofs.Inference.Association
import DesignLint.Proofs.Reader.Names
import DesignLint.Proofs.Tree.Fields

/-! Actuals and what an instantiation reads and drives. An actual is recorded twice, as what is read of an input and as what
is written and read of an output, and the port of the association decides which record counts. Whatever the port is, every
name of the actual is accounted for, but for the elements of a name that is driven as a whole. -/
namespace DesignLint

/-- A token of a phrase that selects an element outside brackets: it stands behind a point. -/
def Phrase.Selects (p : Phrase) (tok : Token) : Prop :=
  ∃ before point after, p.tokens = before ++ point :: tok :: after ∧ point.word = "." ∧
    depthOf (point :: before.reverse) = 0

namespace Phrase

variable {p : Phrase} {libraries : List String} {o : Occurrence} {tok : Token}

theorem exists_place (found : o ∈ p.occurrences libraries none) :
    ∃ x ∈ p.places, o.token = x.token ∧ counts x.before x.token (p.next x) = true ∧
      namesLibrary libraries x.before x.token (p.next x) = false := by
  rw [occurrences_eq] at found
  obtain ⟨x, place, used⟩ := List.mem_filterMap.mp found
  refine ⟨x, place, useAt_token used, ?_⟩
  rw [useAt] at used
  split at used
  · contradiction
  split at used
  · contradiction
  · simp_all

/-- What is read of a phrase in which nothing is written is read or written of it where names are written outside brackets,
or it selects an element. -/
theorem exists_occurrence (found : o ∈ p.occurrences libraries none) :
    (∃ o' ∈ p.occurrences libraries (some 0), o'.token = o.token) ∨ p.Selects o.token := by
  obtain ⟨x, place, token_eq, counted, other⟩ := exists_place found
  rw [token_eq, occurrences_eq]
  cases used : useAt libraries (some 0) x.before x.token (p.next x) with
  | some o' => exact .inl ⟨o', List.mem_filterMap.mpr ⟨x, place, used⟩, useAt_token used⟩
  | none =>
    right
    rw [useAt, counted, other] at used
    simp only [Bool.not_true, Bool.false_eq_true, if_false] at used
    split at used
    · rename_i outside
      split at used
      · rename_i selected
        obtain ⟨behind, _⟩ := Bool.and_eq_true_iff.mp selected
        obtain ⟨point, first, isPoint⟩ := (Option.any_eq_true _ _).mp behind
        obtain ⟨left, before_eq⟩ := List.head?_eq_some_iff.mp first
        have split := mem_places.mp place
        rw [before_eq] at split outside
        refine ⟨left.reverse, point, x.after, by simpa using split, by simpa using isPoint, ?_⟩
        rw [List.reverse_reverse]
        exact (Option.some.inj outside).symm
      · contradiction
    · contradiction

end Phrase

namespace Tree

/-- A node that reads or writes the name of a token stands at the token. -/
def StandsFor (t : Tree) (tok : Token) (id : NodeId) : Prop :=
  ∃ node, t.node? id = some node ∧ node.start = tok.offset ∧ node.stop = tok.stop ∧
    (node.construct = .write tok.text ∨ ∃ isElement, node.construct = .read tok.text isElement)

/-- No port is known for an association: there is no unit, no port that has the name of the formal, or none at the
position. -/
def Unconnected (t : Tree) (unit : UnitPorts) (m : Mapping) (position : Nat) : Prop :=
  ∀ ports, unit = some ports → if t.formalName m = [] then ports.length ≤ position
    else ∀ port ∈ ports, sameName port.1 (t.formalName m) = false

/-- An association accounts for the names of its actual, whatever the direction of its port is. -/
def Accounts (t : Tree) (tokens : List Token) (start : Nat) (m : Mapping) (mode : Option Direction) : Prop :=
  ∃ p : Phrase, p.IsActual tokens start ∧ ∀ r ∈ m.ifInput, ∃ tok ∈ p.tokens, t.StandsFor tok r ∧
    ((∃ id ∈ m.readsFor mode ++ m.writesFor mode, t.StandsFor tok id) ∨
      mode = some .output ∧ p.isName = true ∧ p.Selects tok)

variable {t : Tree} {tokens : List Token} {owner id start : Nat} {m : Mapping} {o : Occurrence} {unit : UnitPorts}

theorem Marks.standsFor (marks : t.Marks owner o id) : t.StandsFor o.token id := by
  cases o with
  | write => exact ⟨_, marks, rfl, rfl, .inl rfl⟩
  | read => exact ⟨_, marks, rfl, rfl, .inr ⟨_, rfl⟩⟩

/-- An actual of an output is accounted for by what is written and read of it. -/
theorem Associates.output (associates : t.Associates tokens owner start m) :
    t.Accounts tokens start m (some .output) := by
  obtain ⟨libraries, p, actual, inputs, writes, reads⟩ := associates
  refine ⟨p, actual, fun r member => ?_⟩
  obtain ⟨o, among, marks⟩ := (exists_of_marks inputs).1 r member
  obtain ⟨x, place, token_eq, _⟩ := Phrase.exists_place among
  have inside : o.token ∈ p.tokens := by
    rw [token_eq, Phrase.mem_places.mp place]
    simp
  refine ⟨o.token, inside, marks.standsFor, ?_⟩
  have covered {o' : Occurrence} (found : o' ∈ p.occurrences libraries p.actualDepth) (same : o'.token = o.token) :
      ∃ id ∈ m.readsFor (some .output) ++ m.writesFor (some .output), t.StandsFor o.token id := by
    rw [← same]
    cases written : o'.isWrite with
    | true =>
      obtain ⟨id, drawn, marks⟩ := (exists_of_marks writes).2 o' (List.mem_filter.mpr ⟨found, written⟩)
      exact ⟨id, List.mem_append_right _ drawn, marks.standsFor⟩
    | false =>
      obtain ⟨id, drawn, marks⟩ := (exists_of_marks reads).2 o' (List.mem_filter.mpr ⟨found, by rw [written]; rfl⟩)
      exact ⟨id, List.mem_append_left _ drawn, marks.standsFor⟩
  cases isName : p.isName with
  | false => exact .inl (covered (by rwa [Phrase.actualDepth, isName]) rfl)
  | true =>
    rcases Phrase.exists_occurrence among with ⟨o', found, same⟩ | selects
    · exact .inl (covered (by rwa [Phrase.actualDepth, isName]) same)
    · exact .inr ⟨rfl, rfl, selects⟩

/-- Whatever the mode is, the names of an actual are accounted for. -/
theorem Fits.accounts (fits : t.Fits tokens id start (.mapping m)) (read : m.ifInput ≠ []) {mode : Option Direction}
    (isMode : ∀ d, mode = some d → d.IsMode) : t.Accounts tokens start m mode := by
  obtain ⟨_, ⟨⟩, _, empty | associates⟩ := (fits.resolve_left fun plain => read (congrArg Mapping.ifInput plain)).resolve_left nofun
  · exact absurd empty.1 read
  obtain ⟨p, actual, covered⟩ := associates.output
  refine ⟨p, actual, fun r member => ?_⟩
  obtain ⟨tok, inside, stands, either⟩ := covered r member
  have asInput (all : m.readsFor mode = m.ifInput) :
      ∃ id ∈ m.readsFor mode ++ m.writesFor mode, t.StandsFor tok id :=
    ⟨r, List.mem_append_left _ (all ▸ member), stands⟩
  refine ⟨tok, inside, stands, ?_⟩
  match mode, isMode with
  | none, _ => exact .inl (asInput rfl)
  | some .input, _ => exact .inl (asInput rfl)
  | some .both, _ => exact .inl (asInput rfl)
  | some .output, _ => exact either
  | some (.other _), isMode => exact (isMode _ rfl).elim

/-- The mappings of a map are those of its associations. -/
theorem exists_of_mem_mappingsOf {map : Option NodeId} (member : m ∈ t.mappingsOf map) :
    ∃ id node, t.node? id = some node ∧ node.construct = .mapping m := by
  rw [mappingsOf] at member
  cases found : map.bind (t.get? Construct.map?) with
  | none => simp [found] at member
  | some ids =>
    rw [found, Option.elim_some] at member
    obtain ⟨id, _, here⟩ := List.mem_filterMap.mp member
    obtain ⟨node, known, same⟩ := Option.map_eq_some_iff.mp ((get?_eq_some_iff Construct.mapping?_eq_some_iff).mp here)
    exact ⟨id, node, known, same⟩

/-- The ports of a tree have modes of the language. -/
theorem Faithful.isMode (faithful : t.Faithful tokens) {u : Interface} {port : Bytes × Direction}
    (member : port ∈ t.portsOf u) : port.2.IsMode := by
  obtain ⟨id, _, here⟩ := List.mem_filterMap.mp member
  obtain ⟨c, known, same⟩ := Option.bind_eq_some_iff.mp here
  obtain ⟨node, found, rfl⟩ := Option.map_eq_some_iff.mp known
  have fits := faithful id node found
  cases drawn : node.construct <;> rw [drawn] at same fits <;> try contradiction
  cases same
  rcases fits with isMode | mark | ⟨_, association, _⟩
  · exact isMode
  · contradiction
  · contradiction

theorem formalDirection?_mem {d : Direction} {ports : List (Bytes × Direction)} {position : Nat}
    (known : t.formalDirection? (some ports) m position = some d) : ∃ port ∈ ports, port.2 = d := by
  simp only [formalDirection?, Option.bind_eq_bind, Option.bind_some] at known
  split at known
  · obtain ⟨port, found, rfl⟩ := Option.map_eq_some_iff.mp known
    exact ⟨port, List.mem_of_getElem? found, rfl⟩
  · obtain ⟨port, found, rfl⟩ := Option.map_eq_some_iff.mp known
    exact ⟨port, List.mem_of_find?_eq_some found, rfl⟩

/-- The direction of a port is unknown exactly if no port is known for the association. -/
theorem formalDirection?_eq_none_iff {position : Nat} :
    t.formalDirection? unit m position = none ↔ t.Unconnected unit m position := by
  cases unit with
  | none => simp [formalDirection?, Unconnected]
  | some ports =>
    simp only [Unconnected, Option.some.injEq, forall_eq']
    by_cases formal : t.formalName m = []
    · rw [if_pos formal]
      simp [formalDirection?, formal]
    · rw [if_neg formal, formalDirection?_of_formal formal, namedDirection?]
      simp

/-- What is known of an instantiated unit: nothing, or the ports of an entity or a component of a file that is parsed. -/
def IsTarget (unit : UnitPorts) : Prop :=
  unit = none ∨ ∃ path text t' u interface, parse path text = .ok t' ∧
    t'.get? Construct.interface? u = some interface ∧ unit = some (t'.portsOf interface)

theorem faithful_of_parse {path : String} {text : Bytes} (parsed : parse path text = .ok t) :
    ∃ tokens, tokenize text = .ok tokens ∧ t.Faithful tokens := by
  obtain ⟨tokens, s, lexed, rfl, units⟩ := units_of_parse parsed
  exact ⟨tokens, lexed, units.ready.faithful⟩

theorem IsTarget.isMode {d : Direction} {position : Nat} (target : IsTarget unit)
    (known : t.formalDirection? unit m position = some d) : d.IsMode := by
  rcases target with rfl | ⟨_, _, t', _, u, parsed, _, rfl⟩
  · contradiction
  · obtain ⟨_, _, faithful⟩ := faithful_of_parse parsed
    obtain ⟨port, member, rfl⟩ := formalDirection?_mem known
    exact faithful.isMode member

end Tree

/-- What an association reads is one of the two records of its actual. -/
theorem Mapping.readsFor_eq {m : Mapping} {mode : Option Direction} (isMode : ∀ d, mode = some d → d.IsMode) :
    m.readsFor mode = if mode = some .output then m.ifOutputReads else m.ifInput := by
  rcases mode with _ | _ | _ | _ | word
  · rfl
  · rfl
  · rfl
  · rfl
  · exact (isMode _ rfl).elim

/-- No actual escapes because of the direction of its port. What an instantiation reads of an association is one of the two
records of its actual, and an input and an unknown port are not driven. Every name that the actual has as an input is read
or driven, but for an element of a name that is driven as a whole. -/
theorem Tree.actuals_accounted {path : String} {text : Bytes} {t : Tree} (parsed : parse path text = .ok t)
    (i : Instantiation) {unit : UnitPorts} (target : IsTarget unit) :
    t.instanceReads i unit = (t.mappingsOf i.genericMap).flatMap Mapping.ifInput ++
        t.portUses Mapping.readsFor unit (t.mappingsOf i.portMap) ∧
      t.instanceWrites i unit = t.portUses Mapping.writesFor unit (t.mappingsOf i.portMap) ∧
      ∃ tokens, tokenize text = .ok tokens ∧ ∀ m position, (m, position) ∈ (t.mappingsOf i.portMap).zipIdx →
        let mode := t.formalDirection? unit m position
        m.readsFor mode = (if mode = some .output then m.ifOutputReads else m.ifInput) ∧
          (mode = some .input ∨ t.Unconnected unit m position → m.writesFor mode = []) ∧
          (m.ifInput ≠ [] → ∃ a node, t.node? a = some node ∧ node.construct = .mapping m ∧
            t.Accounts tokens node.start m mode) := by
  obtain ⟨tokens, lexed, faithful⟩ := faithful_of_parse parsed
  refine ⟨instanceReads_eq_portUses i, instanceWrites_eq_portUses i, tokens, lexed, fun m position member => ?_⟩
  have isMode (d : Direction) (known : t.formalDirection? unit m position = some d) : d.IsMode := target.isMode known
  refine ⟨Mapping.readsFor_eq isMode, ?_, fun read => ?_⟩
  · rintro (input | unconnected)
    · rw [input]
      rfl
    · rw [formalDirection?_eq_none_iff.2 unconnected]
      rfl
  · obtain ⟨a, node, here, drawn⟩ := exists_of_mem_mappingsOf (List.fst_mem_of_mem_zipIdx member)
    have fits := faithful a node here
    rw [drawn] at fits
    exact ⟨a, node, here, drawn, fits.accounts read isMode⟩

/-- The entity of the counter. -/
def counterEntity : Bytes := Bytes.ofString "entity counter is
port (enable : in bit; count : out bit);
end;
"

/-- Where the counter drives an element of a record, the element is left out and the index is read. -/
theorem counter_actuals_accounted : ∃ t i t' u m,
    Tree.parse "design.vhd" (counterWith "go, rec.field(k)") = .ok t ∧ t.get? Construct.instantiation? 2 = some i ∧
      Tree.parse "counter.vhd" counterEntity = .ok t' ∧ t'.get? Construct.interface? 1 = some u ∧
      (m, 1) ∈ (t.mappingsOf i.portMap).zipIdx ∧ t.formalDirection? (some (t'.portsOf u)) m 1 = some .output ∧
      m.ifInput.map t.use? = [(some (Bytes.ofString "rec", false), none), (some (Bytes.ofString "field", true), none),
        (some (Bytes.ofString "k", false), none)] ∧
      m.readsFor (some .output) = m.ifOutputReads ∧
      (m.readsFor (some .output) ++ m.writesFor (some .output)).map t.use? =
        [(some (Bytes.ofString "k", false), none), (none, some (Bytes.ofString "rec"))] ∧
      ∃ tokens a node, tokenize (counterWith "go, rec.field(k)") = .ok tokens ∧ t.node? a = some node ∧
        node.construct = .mapping m ∧ t.Accounts tokens node.start m (some .output) := by
  obtain ⟨t, parsed, found⟩ := exists_ok_of_any
    (show (Tree.parse "design.vhd" (counterWith "go, rec.field(k)")).toOption.any (fun t =>
      (t.get? Construct.instantiation? 2).any fun i => (Tree.parse "counter.vhd" counterEntity).toOption.any fun t' =>
      (t'.get? Construct.interface? 1).any fun u => ((t.mappingsOf i.portMap)[1]?).any fun m =>
      decide (t.formalDirection? (some (t'.portsOf u)) m 1 = some .output ∧
      m.ifInput.map t.use? = [(some (Bytes.ofString "rec", false), none), (some (Bytes.ofString "field", true), none),
        (some (Bytes.ofString "k", false), none)] ∧
      (m.readsFor (some .output) ++ m.writesFor (some .output)).map t.use? =
        [(some (Bytes.ofString "k", false), none), (none, some (Bytes.ofString "rec"))])) = true by
      rw [counterWith_ofList, counterEntity, Bytes.ofString_ofList, Bytes.ofString_ofList, Bytes.ofString_ofList]
      decide +kernel)
  obtain ⟨i, known, found⟩ := (Option.any_eq_true _ _).mp found
  obtain ⟨t', parsed', found⟩ := exists_ok_of_any found
  obtain ⟨u, unit, found⟩ := (Option.any_eq_true _ _).mp found
  obtain ⟨m, second, found⟩ := (Option.any_eq_true _ _).mp found
  obtain ⟨mode, inputs, outputs⟩ := of_decide_eq_true found
  have member : (m, 1) ∈ (t.mappingsOf i.portMap).zipIdx := List.mem_zipIdx_iff_getElem?.mpr second
  obtain ⟨_, _, tokens, lexed, each⟩ := Tree.actuals_accounted parsed i
    (.inr ⟨"counter.vhd", counterEntity, t', 1, u, parsed', unit, rfl⟩)
  obtain ⟨reads, _, accounts⟩ := each m 1 member
  obtain ⟨a, node, here, drawn, accounts⟩ := accounts (by rintro none_; rw [none_] at inputs; contradiction)
  rw [mode] at reads accounts
  exact ⟨t, i, t', u, m, parsed, known, parsed', unit, member, mode, inputs, reads, outputs, tokens, a, node, lexed, here,
    drawn, accounts⟩

end DesignLint
