import DesignLint.Proofs.Parse.Structure

/-! Where the nodes of a parsed file stand. The file takes up the whole text and every other node lies inside its
parent. A node ends where it begins or behind it, except for an association without a formal and an actual: it begins
at the token that follows it and ends with the token before it, so that blanks between the two turn it round. Reads and
writes stand at the names that they quote, and no two in one field stand at the same one. -/
namespace DesignLint

/-- No end of the range of a node lies outside the range of another. -/
structure Node.Inside (node above : Node) : Prop where
  start_le : above.start ≤ node.start
  start_le_stop : node.start ≤ above.stop
  stop_ge : above.start ≤ node.stop
  stop_le : node.stop ≤ above.stop

/-- The end of the text is never read. -/
theorem Ready.endOfText_mem {text : Bytes} {tokens : List Token} {s : ReaderState} (ready : Ready text tokens s) :
    Token.endOfText text.length ∈ s.rest := by
  obtain ⟨before, split, _⟩ := ready.cursor
  obtain ⟨significant, closed, _⟩ := ready.tokensOf.closed
  obtain ⟨early, last, rest⟩ := (List.eq_nil_or_concat' s.rest).resolve_left ready.unpassed
  rw [rest, ← List.append_assoc, closed] at split
  obtain ⟨_, same⟩ := List.append_inj' split rfl
  rw [rest, ← same]
  exact List.mem_append_right early (List.mem_singleton_self _)

namespace Tree

variable {path : String} {text : Bytes} {t : Tree}

/-- The file takes up the whole text. Every node lies in the text and, unless it is the file, inside its parent, and it
does not end before it begins unless it is an empty association between two tokens. -/
theorem parse_ranges (parsed : parse path text = .ok t) :
    ∃ tokens, tokenize text = .ok tokens ∧ t.node? 0 = some ⟨none, 0, text.length, .file⟩ ∧
      ∀ (i : Nat) (node : Node), t.node? i = some node →
        node.start ≤ text.length ∧ node.stop ≤ text.length ∧ node.Ordered tokens ∧
        (i ≠ 0 → ∃ p above, node.parent = some p ∧ t.node? p = some above ∧ node.Inside above) := by
  obtain ⟨tokens, s, lexed, rfl, units⟩ := units_of_parse parsed
  obtain ⟨parts, grows, _⟩ := units.grows
  have file : s.tree.node? 0 = some ⟨none, 0, text.length, .file⟩ := grows.old 0 Nat.one_pos
  have spans := units.ready.spans
  have atEnd := units.ready.endOfText_mem
  have ended (i : Nat) (node : Node) (known : s.tree.node? i = some node) : node.stop ≤ text.length := by
    by_cases root : i = 0
    · subst root
      rw [file] at known
      cases known
      exact Nat.le_refl _
    · exact spans.ended i node (Nat.pos_of_ne_zero root) known _ atEnd
  refine ⟨tokens, lexed, file, fun i node known => ?_⟩
  have begun : node.start ≤ text.length := spans.begun i node known _ atEnd
  refine ⟨begun, ended i node known, spans.ordered i node known, fun root => ?_⟩
  obtain ⟨p, parent, lt⟩ := units.ready.rooted.parent_lt i (Nat.pos_of_ne_zero root) (lt_size_of_node? known)
  have owns : node.parent = some p := (parent?_of_node? known).symm.trans parent
  have exists_ : p < s.tree.nodes.size := Nat.lt_trans lt (lt_size_of_node? known)
  by_cases below_file : p = 0
  · subst below_file
    exact ⟨0, _, owns, file, Nat.zero_le _, begun, Nat.zero_le _, ended i node known⟩
  · obtain ⟨above, here, covers⟩ := grows.covers p (Nat.pos_of_ne_zero below_file) exists_
    obtain ⟨start_le, stop_ge⟩ := spans.below i node p above known owns here
    obtain ⟨start_le_stop, stop_le⟩ := covers i node known owns
    exact ⟨p, above, owns, here, start_le, start_le_stop, stop_ge, stop_le⟩

/-- An instantiation whose port map holds a blank and nothing else. -/
def blankPortMap : Bytes := Bytes.ofString "architecture a of e is\nbegin\nu : c port map ( );\nend;\n"

/-- The association of a blank port map begins at the closing bracket and ends at the opening one. -/
theorem blankPortMap_ranges : ∃ t node, parse "design.vhd" blankPortMap = .ok t ∧ t.node? 4 = some node ∧
    node.stop < node.start ∧ node.construct = .mapping {} ∧
    ∃ p above, node.parent = some p ∧ t.node? p = some above ∧ node.Inside above := by
  obtain ⟨t, parsed, found⟩ := exists_ok_of_any (show (parse "design.vhd" blankPortMap).toOption.any (fun t =>
    (t.node? 4).any fun node => decide (node.stop < node.start)) = true by
      rw [blankPortMap, Bytes.ofString_ofList]
      decide +kernel)
  cases known : t.node? 4 with
  | none =>
    rw [known] at found
    contradiction
  | some node =>
    rw [known] at found
    have early : node.stop < node.start := of_decide_eq_true found
    obtain ⟨_, _, _, ranges⟩ := parse_ranges parsed
    obtain ⟨_, _, ordered, inside⟩ := ranges 4 node known
    have empty := (ordered.resolve_left (Nat.not_le.mpr early)).1
    exact ⟨t, node, parsed, known, early, empty, inside (by decide)⟩

end Tree

/-! ### Marks -/

/-- A name of a text is a piece of it, and not an empty one. -/
theorem slice_of_tokenize {text : Bytes} {tokens : List Token} (lexed : tokenize text = .ok tokens) {tok : Token}
    (member : tok ∈ tokens) (named : tok.isName = true) :
    text.slice tok.offset tok.stop = tok.text ∧ tok.offset < tok.stop := by
  obtain ⟨significant, split, pieces⟩ := (lossless_of_tokenize lexed).pieces
  rw [split] at member
  rcases List.mem_append.mp member with member | last
  · obtain ⟨_, filled, piece⟩ := pieces tok member
    have stop_eq : tok.stop - tok.offset = tok.text.length := by rw [Token.stop, Nat.add_sub_cancel_left]
    rw [Bytes.slice, stop_eq]
    exact ⟨piece.symm, Nat.lt_add_of_pos_right (List.length_pos_iff.mpr filled)⟩
  · rw [List.mem_singleton.mp last] at named
    contradiction

namespace Tree

/-- Of two marks, the one ends before the other begins. -/
def Precedes (t : Tree) (i j : NodeId) : Prop :=
  ∀ a b : Node, t.node? i = some a → t.node? j = some b → a.construct.role.isMark = true →
    b.construct.role.isMark = true → a.stop ≤ b.start

variable {path : String} {text : Bytes} {t : Tree} {tokens : List Token} {holder owner : Nat} {ids : List NodeId}

/-- Nodes that were recorded in the order of the text stand in that order. -/
theorem Records.precede (ordered : tokens.Pairwise fun a b => a.stop ≤ b.offset) (records : t.Records tokens owner ids) :
    ids.Pairwise t.Precedes := by
  obtain ⟨os, sublist, marks⟩ := records
  have inOrder := List.pairwise_map.mp (ordered.sublist sublist)
  clear sublist
  induction marks with
  | nil => exact .nil
  | @cons o id os ids head others ih =>
    obtain ⟨later, rest⟩ := List.pairwise_cons.mp inOrder
    refine List.pairwise_cons.mpr ⟨fun j member a b first next _ _ => ?_, ih rest⟩
    obtain ⟨o', among, marks⟩ := (exists_of_marks others).1 j member
    have place {o : Occurrence} {i : NodeId} {node : Node} (marks : t.Marks owner o i) (known : t.node? i = some node) :
        node.start = o.token.offset ∧ node.stop = o.token.stop := by
      cases o <;> cases marks.symm.trans known <;> exact ⟨rfl, rfl⟩
    rw [(place head first).2, (place marks next).1]
    exact later o' among

/-- The marks below one owner that is no association stand in the order in which they were built. -/
theorem Marked.precede (marked : t.Marked tokens) (other : t.role? owner ≠ some .mapping)
    (sublist : ids.Sublist ((t.partsOf owner).map Prod.snd)) : ids.Pairwise t.Precedes := by
  refine ((t.partsOf_pairwise owner).sublist sublist).imp_of_mem fun {i j} first next lt a b known known' mark mark' => ?_
  have parent {i : NodeId} {node : Node} (member : i ∈ ids) (known : t.node? i = some node) :
      node.parent = some owner := by
    obtain ⟨⟨role, _⟩, part, rfl⟩ := List.mem_map.mp (sublist.subset member)
    exact (parent?_of_node? known).symm.trans (mem_partsOf.mp part).1
  exact marked.ordered i j owner a b lt known known' mark mark' (parent first known) (parent next known') other

/-- What the file holds is no mark. -/
theorem Arranged.not_isMark_of_file (arranged : t.Arranged) (isFile : t.construct? holder = some .file) {id : Nat}
    {node : Node} (held : t.HeldBy holder id) (known : t.node? id = some node) : node.construct.role.isMark ≠ true := by
  have plays : t.role? id = some node.construct.role := by rw [role?, construct?, known]; rfl
  rcases (heldBy_file_iff isFile).mp held with use | ⟨role, unit⟩
  · rw [(arranged.uses id).mp use] at plays
    rw [← Option.some.inj plays]
    exact Bool.false_ne_true
  · have part := (mem_partsOf.mp ((arranged.units (role, id)).mp unit).1).2
    obtain rfl : role = node.construct.role := Option.some.inj (part.symm.trans plays)
    intro mark
    cases drawn : node.construct.role <;> rw [drawn] at mark unit <;> try contradiction
    all_goals simp [unitParts, Part.all] at unit

/-- A field of a construct other than an association and the file holds parts of one node, in the order in which they
were built. -/
theorem Arranged.exists_owner (arranged : t.Arranged) {c : Construct} (known : t.construct? holder = some c)
    (ne : c ≠ .file) (other : c.role ≠ .mapping) {field : String × FieldValue} (member : field ∈ c.fieldList) :
    ∃ owner, t.role? owner ≠ some .mapping ∧ field.2.ids.Sublist ((t.partsOf owner).map Prod.snd) := by
  have here : t.role? holder ≠ some .mapping := by
    rw [role?_of_construct? known]
    exact fun same => other (Option.some.inj same)
  rcases c.exists_sublist_members field member with all | ⟨role, sublist⟩
  · rw [all]
    match declared : c.initial? with
    | none => exact ⟨holder, here, List.nil_sublist _⟩
    | some [] => exact ⟨holder, here, List.nil_sublist _⟩
    | some (read :: more) =>
      have positive := arranged.pos_of_ne_file known ne
      obtain ⟨first, together, parents⟩ :=
        arranged.shares holder positive (lt_size_of_construct? known) c _ known declared
      obtain ⟨c', known', fields⟩ := arranged.drawn holder positive (lt_size_of_construct? known)
      cases known.symm.trans known'
      rw [declared] at fields
      obtain ⟨owner, _, _, parts, _⟩ := fields
      have part : (Role.read, read) ∈ t.partsOf owner := by rw [parts]; simp [Part.all]
      obtain rfl : owner = first :=
        Option.some.inj ((mem_partsOf.mp part).1.symm.trans (parents read List.mem_cons_self).2)
      exact ⟨owner, together.same.2 ▸ here, by rw [parts, Part.map_snd_all]; exact .refl _⟩
  · refine ⟨holder, here, ?_⟩
    by_cases empty : c.members role = []
    · rw [empty] at sublist
      rw [List.sublist_nil.mp sublist]
      exact List.nil_sublist _
    obtain ⟨id, listed⟩ := List.exists_mem_of_ne_nil _ empty
    have plain : c.initial? = none :=
      Option.eq_none_iff_forall_ne_some.mpr fun initial declared => empty (Construct.members_of_initial? declared role)
    rw [← (arranged.holds known ne plain).lists role (Construct.lists_of_mem_members listed)] at sublist
    exact sublist.trans (Part.pick_sublist role _)

/-- What an association holds stands in the order of the text, list by list. -/
theorem Fits.precede {id start : Nat} {m : Mapping} (ordered : tokens.Pairwise fun a b => a.stop ≤ b.offset)
    (fits : t.Fits tokens id start (.mapping m)) :
    ∀ field ∈ (Construct.mapping m).fieldList, field.2.ids.Pairwise t.Precedes := by
  obtain ⟨formal, ifInput, ifOutputReads, ifOutputWrites⟩ : t.Records tokens id m.formal ∧ t.Records tokens id m.ifInput ∧
      t.Records tokens id m.ifOutputReads ∧ t.Records tokens id m.ifOutputWrites := by
    have none_ : t.Records tokens id [] := ⟨[], List.nil_sublist tokens, .nil⟩
    rcases fits with rfl | mark | ⟨_, ⟨⟩, formal, ⟨ifInput, ifOutputReads, ifOutputWrites⟩ | associates⟩
    · exact ⟨none_, none_, none_, none_⟩
    · contradiction
    · rw [ifInput, ifOutputReads, ifOutputWrites]
      exact ⟨formal, none_, none_, none_⟩
    · exact ⟨formal, associates.records⟩
  simp only [Construct.fieldList, FieldValue.ids, List.forall_mem_cons]
  exact ⟨formal.precede ordered, ifInput.precede ordered, ifOutputReads.precede ordered, ifOutputWrites.precede ordered,
    by simp⟩

/-- The marks that one field holds stand in the order of the text. -/
theorem Arranged.fields_precede (arranged : t.Arranged) (marked : t.Marked tokens) (faithful : t.Faithful tokens)
    (ordered : tokens.Pairwise fun a b => a.stop ≤ b.offset) :
    ∀ field ∈ t.fieldsOf holder, field.2.ids.Pairwise t.Precedes := by
  intro field member
  cases known : t.construct? holder with
  | none =>
    rw [fieldsOf, known] at member
    contradiction
  | some c =>
    by_cases isFile : c = .file
    · subst isFile
      refine List.pairwise_of_forall_mem_list fun i held j _ a b here _ mark _ => ?_
      exact absurd mark (arranged.not_isMark_of_file known ⟨field, member, held⟩ here)
    have listed : field ∈ c.fieldList := by
      rw [fieldsOf, known] at member
      cases c <;> first | contradiction | exact member
    by_cases association : c.role = .mapping
    · cases c <;> simp only [Construct.role, reduceCtorEq] at association
      obtain ⟨node, here, drawn⟩ := Option.map_eq_some_iff.mp known
      have fits := faithful holder node here
      rw [drawn] at fits
      exact fits.precede ordered field listed
    · obtain ⟨owner, other, sublist⟩ := arranged.exists_owner known isFile association listed
      exact marked.precede other sublist

/-- Every read and every write of a parsed text stands at a name, which it quotes, and those in one field stand in the
order of the text. -/
theorem marks_of_parse (parsed : parse path text = .ok t) :
    ∃ tokens, tokenize text = .ok tokens ∧
      (∀ (id : Nat) (node : Node) (name : Bytes), t.node? id = some node → node.construct.quoted? = some name →
        text.slice node.start node.stop = name ∧ node.start < node.stop ∧
          ∃ tok ∈ tokens, tok.isName = true ∧ tok.text = name ∧ tok.offset = node.start ∧ tok.stop = node.stop) ∧
      ∀ holder : Nat, ∀ field ∈ t.fieldsOf holder, field.2.ids.Pairwise t.Precedes := by
  have arranged := arranged_of_parse parsed
  obtain ⟨tokens, s, lexed, rfl, units⟩ := units_of_parse parsed
  have ready := units.ready
  refine ⟨tokens, lexed, fun id node name known quotes => ?_, fun holder => ?_⟩
  · obtain ⟨_, tok, member, named, starts, stops, rfl⟩ := ready.marked.quoted id node name known quotes
    obtain ⟨piece, filled⟩ := slice_of_tokenize lexed member named
    rw [starts, stops]
    exact ⟨piece, filled, tok, member, named, rfl, rfl, rfl⟩
  · exact arranged.fields_precede ready.marked ready.faithful ready.tokensOf.ordered

end Tree
end DesignLint
