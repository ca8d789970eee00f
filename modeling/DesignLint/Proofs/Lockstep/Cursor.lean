import DesignLint.Proofs.Lockstep.Run

/-! The cursor and the building of nodes, in lockstep. Both sides see the same words; a node is opened at the
same place and drawn up with the same outline. -/
namespace DesignLint

variable {r : Pairing} {t u : Token}

namespace Token.Twin

theorem length_eq (twin : t.Twin r u) : t.text.length = u.text.length := twin.name_eq.length_eq

theorem stop_eq (twin : t.Twin r u) : r.place t.stop = r.place u.stop := by
  have same := twin.offset_eq
  rw [Likeness.place, Likeness.place] at same ⊢
  split
  · rename_i placed
    rw [if_pos placed, if_pos placed] at same
    rw [stop, stop, same, twin.length_eq]
  · rfl

theorem describe_eq (twin : t.Twin r u) (spelt : r.anyCase = false) : t.describe = u.describe := by
  rw [describe, describe, twin.kind_eq, twin.name_eq.eq spelt]

theorem isName_eq (twin : t.Twin r u) : t.isName = u.isName := by
  rw [isName, isName, twin.kind_eq, twin.word_eq]

theorem opens_eq (twin : t.Twin r u) : t.opens = u.opens := by
  rw [opens, opens, twin.kind_eq, twin.word_eq]

theorem closes_eq (twin : t.Twin r u) : t.closes = u.closes := by
  rw [closes, closes, twin.kind_eq, twin.word_eq]

/-- The texts of two lists of tokens. -/
theorem map_name_eq {ts us : List Token} (twins : List.Forall₂ (Twin r) ts us) :
    (ts.map text).map r.name = (us.map text).map r.name := by
  induction twins with
  | nil => rfl
  | cons twin _ ih => rw [List.map_cons, List.map_cons, List.map_cons, List.map_cons, twin.name_eq, ih]

theorem map_word_eq {ts us : List Token} (twins : List.Forall₂ (Twin r) ts us) : ts.map word = us.map word := by
  induction twins with
  | nil => rfl
  | cons twin _ ih => rw [List.map_cons, List.map_cons, twin.word_eq, ih]

theorem getElem? {ts us : List Token} (twins : List.Forall₂ (Twin r) ts us) (n : Nat) :
    Option.Rel (Twin r) ts[n]? us[n]? := by
  induction twins generalizing n with
  | nil => exact .none
  | cons twin _ ih =>
    cases n with
    | zero => exact .some twin
    | succ n => exact ih n

theorem getLast? {ts us : List Token} (twins : List.Forall₂ (Twin r) ts us) :
    Option.Rel (Twin r) ts.getLast? us.getLast? := by
  rw [List.getLast?_eq_getElem?, List.getLast?_eq_getElem?, twins.length_eq]
  exact getElem? twins _

end Token.Twin

namespace Tree

namespace Twin

variable {t t' : Tree}

theorem checkRoot_eq (twin : t.Twin r t') (id : Nat) : t.checkRoot id = t'.checkRoot id := by
  rw [← outline_checkRoot (l := r.toLikeness) t, twin.outline, outline_checkRoot]

theorem text_eq (twin : t.Twin r t') : r.SourceTwin t.text t'.text := congrArg Tree.text twin.outline

theorem start_eq (twin : t.Twin r t') (id : Nat) :
    r.place ((t.node? id).elim 0 Node.start) = r.place ((t'.node? id).elim 0 Node.start) := by
  have nodes : (t.node? id).map (Node.outline r.toLikeness) = (t'.node? id).map (Node.outline r.toLikeness) := by
    rw [← outline_node?, ← outline_node?, twin.outline]
  generalize t.node? id = found, t'.node? id = found' at nodes
  cases found with
  | none =>
    cases found' with
    | none => rfl
    | some n' => contradiction
  | some n =>
    cases found' with
    | none => contradiction
    | some n' => exact congrArg Node.start (Option.some.inj nodes)

/-- Nodes of one outline are added beside each other. -/
theorem push {n n' : Node} (twin : t.Twin r t') (outline : n.outline r.toLikeness = n'.outline r.toLikeness)
    (beside : n.Beside r n') (library : n.construct.NamesLibrary) :
    Twin r { t with nodes := t.nodes.push n } { t' with nodes := t'.nodes.push n' } where
  path_eq := twin.path_eq
  outline := by rw [outline_push, outline_push, twin.outline, outline]
  beside id m m' known known' child := by
    rw [node?_push] at known known'
    rw [← size_eq twin.outline] at known'
    split at known
    · rename_i new
      rw [if_pos new] at known'
      cases known
      cases known'
      exact beside
    · rename_i old
      rw [if_neg old] at known'
      exact twin.beside id m m' known known' child
  libraries id c known := by
    rw [construct?, node?_push] at known
    split at known
    · cases known
      exact library
    · exact twin.libraries id c known

/-- A node is changed alike on both sides. -/
theorem modify {id : Nat} {change change' : Node → Node} (twin : t.Twin r t') (drawn : Node → Node)
    (outline : ∀ n, (change n).outline r.toLikeness = drawn (n.outline r.toLikeness))
    (outline' : ∀ n, (change' n).outline r.toLikeness = drawn (n.outline r.toLikeness))
    (parent : ∀ n, (change n).parent = n.parent)
    (beside : ∀ n n', t.node? id = some n → n.Beside r n' → (change n).Beside r (change' n'))
    (library : ∀ n, n.construct.NamesLibrary → (change n).construct.NamesLibrary) :
    Twin r (t.modify id change) (t'.modify id change') where
  path_eq := twin.path_eq
  outline := by rw [outline_modify outline, outline_modify outline', twin.outline]
  beside i m m' known known' child := by
    rw [node?_modify] at known known'
    split at known
    · rename_i here
      subst here
      rw [if_pos rfl] at known'
      obtain ⟨n, found, rfl⟩ := Option.map_eq_some_iff.mp known
      obtain ⟨n', found', rfl⟩ := Option.map_eq_some_iff.mp known'
      rw [parent] at child
      exact beside n n' found (twin.beside id n n' found found' child)
    · rename_i elsewhere
      rw [if_neg elsewhere] at known'
      exact twin.beside i m m' known known' child
  libraries i c known := by
    rw [construct?, node?_modify] at known
    split at known
    · rw [Option.map_map] at known
      obtain ⟨n, found, rfl⟩ := Option.map_eq_some_iff.mp known
      exact library n (twin.libraries i _ (by rw [construct?, found]; rfl))
    · exact twin.libraries i c known

theorem update {c c' : Construct} (twin : t.Twin r t') (id : Nat)
    (same : c.outline r.toLikeness = c'.outline r.toLikeness) (compound : c.isOccurrence = false)
    (library : c.NamesLibrary) : Twin r (t.update id fun _ => c) (t'.update id fun _ => c') := by
  refine twin.modify (fun n => { n with construct := c.outline r.toLikeness }) (fun n => rfl)
    (fun n => ?_) (fun _ => rfl) ?_ fun _ _ => library
  · rw [same]
    rfl
  · rintro n n' _ ⟨t, u, tokens, start, start', _⟩
    exact ⟨t, u, tokens, start, start', fun occurrence => absurd (compound.symm.trans occurrence) Bool.false_ne_true⟩

theorem endAt {id : Nat} (twin : t.Twin r t') {stop stop' : Nat} (stops : r.place stop = r.place stop')
    (compound : (t.construct? id).any Construct.isOccurrence = false) :
    Twin r (t.modify id fun n => { n with stop }) (t'.modify id fun n => { n with stop := stop' }) := by
  refine twin.modify (fun n => { n with stop := r.place stop }) (fun _ => rfl) (fun _ => ?_) (fun _ => rfl) ?_
    fun _ kept => kept
  · rw [stops]
    rfl
  · rintro n n' known ⟨t, u, tokens, start, start', _⟩
    rw [construct?, known] at compound
    exact ⟨t, u, tokens, start, start', fun occurrence => absurd (compound.symm.trans occurrence) Bool.false_ne_true⟩

end Twin

/-- A node that was made a construct is no read or write, unless the construct is. -/
theorem any_update {t : Tree} {id : Nat} {c : Construct} (compound : c.isOccurrence = false) :
    ((t.update id fun _ => c).construct? id).any Construct.isOccurrence = false := by
  rw [construct?, update, node?_modify, if_pos rfl]
  cases t.node? id with
  | none => rfl
  | some n => exact compound

end Tree

namespace Reader

variable {α β : Type} {post : α → β → Prop}

theorem peekAt_alike (n : Nat) : Alike r (Token.Twin r) (peekAt n) (peekAt n) := by
  refine Alike.get.bind fun s s' twin => ?_
  have last := Token.Twin.getLast? twin.rest
  have here := Token.Twin.getElem? twin.rest n
  generalize s.rest[n]? = found, s'.rest[n]? = found' at here
  generalize s.rest.getLast? = last, s'.rest.getLast? = last' at last
  cases here with
  | some found => exact .pure found
  | none =>
    cases last with
    | some found => exact .pure found
    | none => exact fun _ _ _ => .left (show ReadFault.outside.Spurious from trivial) _

theorem peek_alike : Alike r (Token.Twin r) peek peek := peekAt_alike 0

theorem next_alike : Alike r (Token.Twin r) next next := by
  refine Alike.get.bind fun s s' twin => ?_
  have rest := twin.rest
  generalize s.rest = left, s'.rest = left' at rest
  cases rest with
  | nil => exact fun _ _ _ => .left (show ReadFault.outside.Spurious from trivial) _
  | cons first others =>
    refine .ite (by rw [first.kind_eq]) (.pure first) ?_
    exact Alike.eq_bind (.set ⟨others, congrArg some first.stop_eq, twin.tree, twin.libraryNames⟩) fun _ => .pure first

theorem failWith_alike {message message' : Bytes} (reason : r.anyCase = false → message = message') :
    Alike r post (failWith message) (failWith message') :=
  peek_alike.bind fun _ _ twin => .throw (.unexpected twin reason)

theorem fail_alike (message : String) : Alike r post (fail message) (fail message) := failWith_alike fun _ => rfl

theorem failExpecting_alike (what : String) (twin : t.Twin r u) :
    Alike r post (failExpecting what t) (failExpecting what u) :=
  failWith_alike fun spelt => by rw [twin.describe_eq spelt]

/-- Both sides fail over the token that comes next. -/
theorem failAtPeek_alike (what : String) :
    Alike r post (do failExpecting what (← peek)) (do failExpecting what (← peek)) :=
  peek_alike.bind fun _ _ twin => failExpecting_alike what twin

theorem sees_alike (words : List String) : Alike r Eq (sees words) (sees words) :=
  peek_alike.bind fun _ _ twin => .pure (by rw [twin.word_eq])

theorem seesSecond_alike (words : List String) : Alike r Eq (seesSecond words) (seesSecond words) :=
  (peekAt_alike 1).bind fun _ _ twin => .pure (by rw [twin.word_eq])

theorem atEnd_alike : Alike r Eq atEnd atEnd :=
  peek_alike.bind fun _ _ twin => .pure (by rw [twin.kind_eq])

theorem accept_alike (words : List String) : Alike r Eq (accept words) (accept words) :=
  (sees_alike words).eq_bind fun _ => .cond (next_alike.discard_bind (.pure rfl)) (.pure rfl)

theorem ifAccepted_alike (words : List String) {otherwise : α} {otherwise' : β} {x : Reader α} {y : Reader β}
    (related : post otherwise otherwise') (alike : Alike r post x y) :
    Alike r post (ifAccepted words otherwise x) (ifAccepted words otherwise' y) :=
  (accept_alike words).eq_bind fun _ => .cond alike (.pure related)

theorem expect_alike (word : String) : Alike r (Token.Twin r) (expect word) (expect word) :=
  (sees_alike [word]).eq_bind fun _ => .cond next_alike (failAtPeek_alike _)

theorem skip_alike (word : String) : Alike r Eq (skip word) (skip word) := (expect_alike word).discard

theorem seesName_alike : Alike r Eq seesName seesName :=
  peek_alike.bind fun _ _ twin => .pure twin.isName_eq

theorem name_alike : Alike r (Token.Twin r) name name :=
  seesName_alike.eq_bind fun _ => .cond next_alike (failAtPeek_alike _)

theorem isName_of_name {s s' : ReaderState} (run : name s = .ok (t, s')) : t.isName = true := by
  obtain ⟨rest, lastStop, tree, libraryNames⟩ := s
  cases rest with
  | nil => contradiction
  | cons u rest =>
    change (if u.isName = true then next else do failExpecting "identifier" (← peek)) _ = _ at run
    split at run
    · rename_i named
      change (if u.kind = .endOfText then (return u : Reader Token) else _) _ = _ at run
      split at run <;> cases run <;> exact named
    · contradiction

theorem optionalName_alike : Alike r Eq optionalName optionalName :=
  seesName_alike.eq_bind fun _ => .cond next_alike.discard (.pure rfl)

theorem nameList_alike : Alike r (List.Forall₂ (Token.Twin r)) nameList nameList := by
  refine name_alike.bind fun _ _ first => ?_
  refine Alike.bind (.loop (List.Forall₂ (Token.Twin r)) (fun names names' twins => ?_) .nil) fun _ _ others =>
    .pure (.cons first others)
  refine (accept_alike _).eq_bind fun _ => .cond ?_ ?_
  · exact name_alike.bind fun _ _ twin => .pure (.again (.cons twin twins))
  · exact .pure (.done (List.forall₂_reverse_iff.mpr twins))

/-- An identifier has a text. -/
theorem name_nonempty_alike : Alike r (fun t u => t.Twin r u ∧ t.text ≠ []) name name := by
  intro s s' twin
  have agree := name_alike s s' twin
  have named : ∀ t s₁, name s = .ok (t, s₁) → t.isName = true := fun _ _ => isName_of_name
  generalize name s = run, name s' = run' at agree named
  cases agree with
  | ok tokens states => exact .ok ⟨tokens, tokens.nonempty (named _ _ rfl)⟩ states
  | error twin => exact .error twin
  | left spurious => exact .left spurious _
  | right _ spurious => exact .right _ spurious

/-- The parts of a selected name; the first one is a name. -/
theorem selectedName_alike :
    Alike r (fun parts parts' => List.Forall₂ r.NameTwin parts parts' ∧ parts.headD [] ≠ []) selectedName
      selectedName := by
  refine name_nonempty_alike.bind fun _ _ first => ?_
  refine Alike.bind (.loop (List.Forall₂ r.NameTwin) (fun parts parts' twins => ?_) .nil) fun _ _ others =>
    .pure ⟨.cons first.1.name_eq others, first.2⟩
  refine (accept_alike _).eq_bind fun _ => .cond ?_ ?_
  · refine (accept_alike _).eq_bind fun _ => .cond ?_ ?_
    · exact .pure (.done (List.forall₂_reverse_iff.mpr (.cons rfl twins)))
    · exact name_alike.bind fun _ _ twin => .pure (.again (.cons twin.name_eq twins))
  · exact .pure (.done (List.forall₂_reverse_iff.mpr twins))

theorem label_alike : Alike r r.NameTwin label label := by
  refine seesName_alike.eq_bind fun _ => (seesSecond_alike _).eq_bind fun _ => .cond ?_ (.pure rfl)
  exact next_alike.bind fun _ _ twin => next_alike.discard_bind (.pure twin.name_eq)

/-- Nodes of one outline are opened at one place; a read or write spans the token there. -/
theorem attach_alike (parent : NodeId) (twin : t.Twin r u) {stop stop' : Nat} {c c' : Construct}
    (same : c.outline r.toLikeness = c'.outline r.toLikeness) (stops : r.place stop = r.place stop')
    (whole : c.isOccurrence → stop = t.stop ∧ stop' = u.stop) (library : c.NamesLibrary) :
    Alike r Eq (attach parent t.offset stop c) (attach parent u.offset stop' c') := by
  refine Alike.get.bind fun s s' states => ?_
  simp only [Tree.attach, Tree.place, ← states.tree.checkRoot_eq parent]
  cases s.tree.checkRoot parent with
  | error fault => exact .throw (.tree _ _ fault)
  | ok root =>
    cases checkRange s.tree.text.length t.offset stop with
    | error fault => exact fun _ _ _ => .left (show (ReadFault.tree _ (.range fault)).Spurious from trivial) _
    | ok inside =>
      cases checkRange s'.tree.text.length u.offset stop' with
      | error fault => exact fun _ _ _ => .right _ (show (ReadFault.tree _ (.range fault)).Spurious from trivial)
      | ok inside =>
        refine Alike.eq_bind (.set ⟨states.rest, states.lastStop, ?_, states.libraryNames⟩) fun _ =>
          .pure (Tree.size_eq states.tree.outline)
        refine states.tree.push ?_ ⟨t, u, twin, rfl, rfl, whole⟩ library
        simp only [Node.outline, Int.toNat_natCast, twin.offset_eq, stops, same]

theorem begin_alike (parent : NodeId) (twin : t.Twin r u) (c : Construct)
    (compound : c.isOccurrence = false) (library : c.NamesLibrary) :
    Alike r Eq (begin parent t c) (begin parent u c) :=
  attach_alike parent twin rfl twin.offset_eq
    (fun occurrence => absurd (compound.symm.trans occurrence) Bool.false_ne_true) library

theorem attachToken_alike (parent : NodeId) (twin : t.Twin r u) {c c' : Construct}
    (same : c.outline r.toLikeness = c'.outline r.toLikeness) (library : c.NamesLibrary) :
    Alike r Eq (attachToken parent t c) (attachToken parent u c') :=
  attach_alike parent twin same twin.stop_eq (fun _ => ⟨rfl, rfl⟩) library

theorem endAt_agree {s s' : ReaderState} {id : Nat} (twin : s.Twin r s') {stop stop' : Nat}
    (stops : r.place stop = r.place stop') (compound : (s.tree.construct? id).any Construct.isOccurrence = false) :
    Agree r Eq (endAt id stop s) (endAt id stop' s') :=
  .ok rfl ⟨twin.rest, twin.lastStop, twin.tree.endAt stops compound, twin.libraryNames⟩

theorem finish_agree {s s' : ReaderState} {id : Nat} (twin : s.Twin r s')
    (compound : (s.tree.construct? id).any Construct.isOccurrence = false) :
    Agree r Eq (finish id s) (finish id s') := by
  obtain ⟨rest, lastStop, tree, libraryNames⟩ := s
  obtain ⟨rest', lastStop', tree', libraryNames'⟩ := s'
  have stops := twin.lastStop
  cases lastStop with
  | none => exact .left (show ReadFault.outside.Spurious from trivial) _
  | some stop =>
    cases lastStop' with
    | none => cases stops
    | some stop' => exact endAt_agree twin (Option.some.inj stops) compound

theorem become_twin {s s' : ReaderState} (twin : s.Twin r s') (id : NodeId) {c c' : Construct}
    (same : c.outline r.toLikeness = c'.outline r.toLikeness) (compound : c.isOccurrence = false)
    (library : c.NamesLibrary) :
    ReaderState.Twin r { s with tree := s.tree.update id fun _ => c }
      { s' with tree := s'.tree.update id fun _ => c' } :=
  ⟨twin.rest, twin.lastStop, twin.tree.update id same compound library, twin.libraryNames⟩

/-- A node is drawn up with the same outline. Reads and writes are never redrawn. -/
theorem complete_alike (id : NodeId) {c c' : Construct} (same : c.outline r.toLikeness = c'.outline r.toLikeness)
    (compound : c.isOccurrence = false) (library : c.NamesLibrary) :
    Alike r Eq (complete id c) (complete id c') :=
  fun _ _ twin => finish_agree (become_twin twin id same compound library) (Tree.any_update compound)

/-- Looking at the next token changes nothing. -/
theorem peek_cases (s : ReaderState) : (∃ t, peek s = .ok (t, s)) ∨ peek s = .error .outside := by
  obtain ⟨rest, lastStop, tree, libraryNames⟩ := s
  cases rest with
  | nil => exact .inr rfl
  | cons t rest => exact .inl ⟨t, rfl⟩

theorem endTrimmed_cases (id : NodeId) (limit : Nat) (s : ReaderState) :
    (endTrimmed id limit s = endAt id (trimmedEnd s.tree.text ((s.tree.node? id).elim 0 Node.start) limit) s) ∨
      ∃ fault, endTrimmed id limit s = .error fault ∧ fault.Spurious := by
  simp only [endTrimmed, bind, StateT.bind, MonadState.get, getThe, MonadStateOf.get, StateT.get, pure, Except.pure,
    Except.bind]
  generalize (s.tree.node? id).elim 0 Node.start = start
  rw [trimmedEnd?]
  split
  · exact .inr ⟨_, rfl, trivial⟩
  rw [if_pos (by simp)]
  refine .inl ?_
  split
  · rename_i same
    have nothing : trimmedEnd s.tree.text start start = start := by simp [trimmedEnd, Bytes.slice]
    rw [← Int.ofNat.inj same, nothing]
    rfl
  · rfl

theorem endTrimmed_agree {s s' : ReaderState} {id : Nat} (twin : s.Twin r s') {limit limit' : Nat}
    (limits : r.place limit = r.place limit')
    (compound : (s.tree.construct? id).any Construct.isOccurrence = false) :
    Agree r Eq (endTrimmed id limit s) (endTrimmed id limit' s') := by
  rcases endTrimmed_cases id limit s with run | ⟨fault, run, spurious⟩
  · rcases endTrimmed_cases id limit' s' with run' | ⟨fault, run', spurious⟩
    · rw [run, run']
      exact endAt_agree twin (twin.tree.text_eq.trimmedEnd (twin.tree.start_eq id) limits) compound
    · rw [run']
      exact .right _ spurious
  · rw [run]
    exact .left spurious _

/-- A node is drawn up and ends before the next token, less the white space in between. -/
theorem become_endTrimmed_alike (id : NodeId) {c c' : Construct}
    (same : c.outline r.toLikeness = c'.outline r.toLikeness) (compound : c.isOccurrence = false)
    (library : c.NamesLibrary) :
    Alike r Eq (do become id c; endTrimmed id (← peek).offset) (do become id c'; endTrimmed id (← peek).offset) := by
  intro s s' twin
  have drawn := become_twin twin id same compound library
  have next := peek_alike _ _ drawn
  change Agree r Eq (peek { s with tree := s.tree.update id fun _ => c } >>= fun p => endTrimmed id p.1.offset p.2)
    (peek { s' with tree := s'.tree.update id fun _ => c' } >>= fun p => endTrimmed id p.1.offset p.2)
  rcases peek_cases { s with tree := s.tree.update id fun _ => c } with ⟨t, seen⟩ | seen
  · rcases peek_cases { s' with tree := s'.tree.update id fun _ => c' } with ⟨t', seen'⟩ | seen'
    · rw [seen, seen'] at next ⊢
      cases next with
      | ok tokens _ => exact endTrimmed_agree drawn tokens.offset_eq (Tree.any_update compound)
    · rw [seen']
      exact .right _ (show ReadFault.outside.Spurious from trivial)
  · rw [seen]
    exact .left (show ReadFault.outside.Spurious from trivial) _

/-- The file's own entries are changed alike, as long as its path and its nodes stay as they are. -/
theorem modifyTree_alike {change : Tree → Tree} (path_eq : ∀ t, (change t).path = t.path)
    (nodes_eq : ∀ t, (change t).nodes = t.nodes)
    (outline_eq : ∀ t, (change t).outline r.toLikeness = change (t.outline r.toLikeness)) :
    Alike r Eq (modifyTree change) (modifyTree change) := by
  refine .modify fun s s' twin => ⟨twin.rest, twin.lastStop, ⟨?_, ?_, ?_, ?_⟩, twin.libraryNames⟩
  · exact (path_eq s.tree).trans twin.tree.path_eq
  · rw [outline_eq, outline_eq, twin.tree.outline]
  · intro id n n' known known' child
    rw [Tree.node?, nodes_eq] at known known'
    exact twin.tree.beside id n n' known known' child
  · intro id c known
    rw [Tree.construct?, Tree.node?, nodes_eq] at known
    exact twin.tree.libraries id c known

/-- Tokens at one place, with the same thing attached. -/
def ItemTwin {α : Type} (r : Pairing) (a b : Token × α) : Prop := a.1.Twin r b.1 ∧ a.2 = b.2

theorem attachEach_alike (parent : NodeId) {make make' : Token → Construct}
    (same : ∀ t u, t.Twin r u → (make t).outline r.toLikeness = (make' u).outline r.toLikeness)
    (library : ∀ t, (make t).NamesLibrary) {names names' : List Token}
    (twins : List.Forall₂ (Token.Twin r) names names') :
    Alike r (List.Forall₂ (ItemTwin r)) (attachEach parent make names) (attachEach parent make' names') := by
  refine .mapM (fun t u twin => ?_) twins
  exact (attachToken_alike parent twin (same t u twin) (library t)).eq_bind fun id => .pure ⟨twin, rfl⟩

theorem completeEach_alike {make make' : Token → Construct}
    (same : ∀ t u, t.Twin r u → (make t).outline r.toLikeness = (make' u).outline r.toLikeness)
    (compound : ∀ t, (make t).isOccurrence = false) (library : ∀ t, (make t).NamesLibrary)
    {items items' : List (Token × NodeId)} (twins : List.Forall₂ (ItemTwin r) items items') :
    Alike r Eq (completeEach make items) (completeEach make' items') := by
  have each : Alike r (List.Forall₂ Eq) (completeEach make items) (completeEach make' items') := by
    refine .mapM ?_ twins
    rintro ⟨t, id⟩ ⟨u, id'⟩ ⟨twin, rfl⟩
    exact (complete_alike id (same t u twin) (compound t) (library t)).eq_bind fun _ => .pure rfl
  exact each.mono fun _ _ same => List.forall₂_eq_eq_eq ▸ same

theorem optionalDesignator_alike : Alike r Eq optionalDesignator optionalDesignator := by
  refine seesName_alike.eq_bind fun _ => peek_alike.bind fun t u twin => .ite ?_ next_alike.discard (.pure rfl)
  rw [twin.kind_eq]

theorem endOf_alike (words : List String) : Alike r Eq (endOf words) (endOf words) := by
  refine (skip_alike _).eq_bind fun _ => Alike.eq_bind ?_ fun _ => .eq_bind optionalDesignator_alike fun _ => skip_alike _
  induction words with
  | nil => exact .pure rfl
  | cons word words ih => exact (accept_alike _).discard_bind ih

end Reader
end DesignLint
