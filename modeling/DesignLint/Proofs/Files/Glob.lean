import DesignLint.Files.Glob
import DesignLint.Proofs.Text.Decoding
import Mathlib.Data.List.Forall2

/-! A pattern without classes is matched segment by segment: no star and no question mark goes over a slash, and where a
piece of the pattern is matched in one segment does not depend on the segments behind it. -/
namespace DesignLint.Glob

/-- A pattern that has no classes and takes no byte literally that has a meaning of its own. -/
def Plain (pattern : Bytes) : Prop := ∀ b ∈ pattern, b ≠ 91 ∧ b ≠ 92

/-! ## The pieces of a plain pattern -/

def plainItem (b : UInt8) : Item := if b = 63 then .anyChar else .literal b

/-- A pattern that is cut at its stars. -/
inductive Cut : Bytes → List Piece → Prop where
  | done : Cut [] []
  | piece (stars : Nat) (chunk more : Bytes) (ps : List Piece) : 42 ∉ chunk → (stars ≠ 0 ∨ chunk ≠ []) →
      (more = [] ∨ chunk ≠ [] ∧ more.head? = some 42) → Cut more ps →
      Cut (List.replicate stars 42 ++ chunk ++ more) (⟨0 < stars, chunk.map plainItem⟩ :: ps)

variable {p q text left rest chunk more : Bytes} {star : Bool} {ps qs : List Piece} {size : Nat}

theorem Plain.append (plain : Plain (p ++ q)) : Plain p ∧ Plain q :=
  ⟨fun b member => plain b (List.mem_append_left _ member), fun b member => plain b (List.mem_append_right _ member)⟩

theorem pieceLength_plain (plain : Plain chunk) (noStar : 42 ∉ chunk) (ends : more = [] ∨ more.head? = some 42) :
    pieceLength false (chunk ++ more) = chunk.length := by
  induction chunk with
  | nil =>
    rcases ends with rfl | starred
    · rfl
    · obtain ⟨rest, rfl⟩ := List.head?_eq_some_iff.mp starred
      cases rest <;> simp [pieceLength]
  | cons b chunk ih =>
    have kept := ih (fun c member => plain c (List.mem_cons_of_mem _ member)) fun member => noStar (List.mem_cons_of_mem _ member)
    have b_plain := plain b List.mem_cons_self
    have b_star : b ≠ 42 := fun same => noStar (same ▸ List.mem_cons_self)
    cases tail : chunk ++ more with
    | nil =>
      obtain ⟨rfl, rfl⟩ := List.append_eq_nil_iff.mp tail
      simp [pieceLength, b_star]
    | cons c after =>
      rw [tail] at kept
      rw [List.cons_append, tail, pieceLength, List.length_cons, kept]
      simp [b_plain, b_star, Nat.add_comm 1]

theorem items?_plain (plain : Plain chunk) : items? chunk.length chunk = some (chunk.map plainItem) := by
  induction chunk with
  | nil => rfl
  | cons b chunk ih =>
    have b_plain := plain b List.mem_cons_self
    have kept := ih fun c member => plain c (List.mem_cons_of_mem _ member)
    rw [List.length_cons, items?.eq_def]
    by_cases any : b = 63 <;> simp [any, b_plain, plainItem, kept]

theorem Cut.pieces? (cut : Cut p ps) (plain : Plain p) (size_lt : p.length < size) : Glob.pieces? size p = some ps := by
  induction cut generalizing size with
  | done =>
    obtain ⟨size, rfl⟩ := Nat.exists_eq_succ_of_ne_zero (Nat.ne_of_gt size_lt)
    rfl
  | piece stars chunk more ps noStar filled ends cut ih =>
    obtain ⟨size, rfl⟩ := Nat.exists_eq_succ_of_ne_zero (Nat.ne_of_gt (Nat.zero_lt_of_lt size_lt))
    obtain ⟨front, plain_more⟩ := plain.append
    have plain_chunk := front.append.2
    have ends' : more = [] ∨ more.head? = some 42 := ends.imp_right And.right
    have unstarred : (List.replicate stars 42 ++ chunk ++ more).dropWhile (· == 42) = chunk ++ more := by
      rw [List.append_assoc, List.dropWhile_append_of_pos (by simp)]
      cases chunk with
      | nil =>
        rcases ends with rfl | ⟨nonempty, _⟩
        · rfl
        · exact absurd rfl nonempty
      | cons b chunk =>
        have b_star : b ≠ 42 := fun same => noStar (same ▸ List.mem_cons_self)
        simp [b_star]
    have shorter : more.length < size := by
      rw [List.length_append, List.length_append, List.length_replicate] at size_lt
      rcases filled with some | some
      · omega
      · have := List.length_pos_iff.mpr some
        omega
    have nonempty : List.replicate stars 42 ++ chunk ++ more ≠ [] := by
      rcases filled with some | some <;> simp [some]
    rw [Glob.pieces?, unstarred, pieceLength_plain plain_chunk noStar ends', List.take_left, List.drop_left,
      items?_plain plain_chunk, ih plain_more shorter]
    · simp
    · exact nonempty

theorem exists_cut (p : Bytes) : ∃ ps, Cut p ps := by
  induction p with
  | nil => exact ⟨[], .done⟩
  | cons b p ih =>
    obtain ⟨ps, cut⟩ := ih
    by_cases starred : b = 42
    · subst starred
      cases cut with
      | done => exact ⟨_, .piece 1 [] [] [] (by simp) (by simp) (.inl rfl) .done⟩
      | piece stars chunk more ps noStar filled ends cut =>
        exact ⟨_, .piece (stars + 1) chunk more ps noStar (.inl (Nat.succ_ne_zero _)) ends cut⟩
    · have fresh : 42 ∉ [b] := by simpa using Ne.symm starred
      cases cut with
      | done => exact ⟨_, .piece 0 [b] [] [] fresh (by simp) (.inl rfl) .done⟩
      | piece stars chunk more ps noStar filled ends cut =>
        cases stars with
        | zero =>
          have nonempty : chunk ≠ [] := filled.resolve_left (by simp)
          refine ⟨_, .piece 0 (b :: chunk) more ps ?_ (by simp) (ends.imp_right fun ends => ⟨by simp, ends.2⟩) cut⟩
          exact fun member => (List.mem_cons.mp member).elim (Ne.symm starred) noStar
        | succ stars =>
          have next : (List.replicate (stars + 1) 42 ++ chunk ++ more).head? = some 42 := rfl
          exact ⟨_, .piece 0 [b] _ _ fresh (by simp) (.inr ⟨by simp, next⟩) (.piece _ chunk more ps noStar filled ends cut)⟩

/-! ## Matching up to a slash -/

/-- What stands behind a segment: nothing, or a slash and the other segments. -/
def Behind (rest : Bytes) : Prop := rest = [] ∨ ∃ more, rest = slash :: more

theorem suffix_of_fits? {item : Item} (fits : item.fits? text = some left) : left <:+ text := by
  cases text with
  | nil => cases fits
  | cons b text =>
    have dropped (k : Nat) : text.drop k <:+ b :: text := (List.drop_suffix k text).trans (List.suffix_cons b text)
    cases item with
    | literal expected =>
      obtain ⟨_, ⟨⟩⟩ := Option.ite_none_right_eq_some.mp fits
      exact List.suffix_cons b _
    | anyChar =>
      obtain ⟨_, ⟨⟩⟩ := Option.ite_none_left_eq_some.mp fits
      exact dropped _
    | charClass negated ranges =>
      obtain ⟨_, ⟨⟩⟩ := Option.ite_none_left_eq_some.mp fits
      exact dropped _

theorem suffix_of_itemsFit? {items : List Item} (fits : itemsFit? items text = some left) : left <:+ text := by
  induction items generalizing text with
  | nil =>
    obtain rfl := Option.some.inj fits
    exact List.suffix_rfl
  | cons item items ih =>
    obtain ⟨next, first, others⟩ := Option.bind_eq_some_iff.mp fits
    exact (ih others).trans (suffix_of_fits? first)

theorem suffix_of_mem_starts {place : Bytes} (member : place ∈ starts text) : place <:+ text := by
  induction text with
  | nil => exact List.mem_singleton.mp member ▸ List.suffix_rfl
  | cons b text ih =>
    rw [starts] at member
    split at member
    · exact List.mem_singleton.mp member ▸ List.suffix_rfl
    · rcases List.mem_cons.mp member with rfl | later
      · exact List.suffix_rfl
      · exact (ih later).trans (List.suffix_cons b text)

theorem fits?_append {b : UInt8} (b_slash : b ≠ slash) (plain : slash ∉ text) (behind : Behind rest) :
    (plainItem b).fits? (text ++ rest) = ((plainItem b).fits? text).map (· ++ rest) := by
  cases text with
  | nil =>
    rcases behind with rfl | ⟨more, rfl⟩
    · rfl
    · rw [plainItem]
      split
      · rfl
      · simp [Item.fits?, Ne.symm b_slash]
  | cons c text =>
    have c_slash : c ≠ slash := fun same => plain (same ▸ List.mem_cons_self)
    have same : Bytes.head c (text ++ rest) = Bytes.head c text := by
      rcases behind with rfl | ⟨more, rfl⟩
      · rw [List.append_nil]
      · exact Bytes.head_append_of_not_continues (Bytes.continues_of_ascii (by decide)) text more
    rw [plainItem]
    split
    · simp [Item.fits?, c_slash, Bytes.step, same, List.drop_append_of_le_length (Bytes.head_le c text)]
    · by_cases found : c = b <;> simp [Item.fits?, found]

theorem itemsFit?_append (free : slash ∉ chunk) (plain : slash ∉ text) (behind : Behind rest) :
    itemsFit? (chunk.map plainItem) (text ++ rest) = (itemsFit? (chunk.map plainItem) text).map (· ++ rest) := by
  induction chunk generalizing text with
  | nil => rfl
  | cons b chunk ih =>
    have b_slash : b ≠ slash := fun same => free (same ▸ List.mem_cons_self)
    have free' : slash ∉ chunk := fun member => free (List.mem_cons_of_mem _ member)
    simp only [List.map_cons, itemsFit?, fits?_append b_slash plain behind]
    cases fits : (plainItem b).fits? text with
    | none => rfl
    | some next => exact ih free' fun member => plain ((suffix_of_fits? fits).subset member)

theorem itemsFit?_concat (items more : List Item) (text : Bytes) :
    itemsFit? (items ++ more) text = (itemsFit? items text).bind (itemsFit? more) := by
  induction items generalizing text with
  | nil => rfl
  | cons item items ih =>
    rw [List.cons_append, itemsFit?, itemsFit?]
    cases item.fits? text with
    | none => rfl
    | some next => exact ih next

theorem starts_append (plain : slash ∉ text) (behind : Behind rest) :
    starts (text ++ rest) = (starts text).map (· ++ rest) := by
  induction text with
  | nil => rcases behind with rfl | ⟨more, rfl⟩ <;> simp [starts]
  | cons b text ih =>
    have b_slash : b ≠ slash := fun same => plain (same ▸ List.mem_cons_self)
    simp [starts, b_slash, ih fun member => plain (List.mem_cons_of_mem _ member)]

/-- The places where a piece may start. -/
def places (star : Bool) (text : Bytes) : List Bytes := if star then starts text else [text]

theorem places_append (plain : slash ∉ text) (behind : Behind rest) :
    places star (text ++ rest) = (places star text).map (· ++ rest) := by
  cases star with
  | false => rfl
  | true => exact starts_append plain behind

theorem suffix_of_mem_places {place : Bytes} (member : place ∈ places star text) : place <:+ text := by
  cases star with
  | false => exact List.mem_singleton.mp member ▸ List.suffix_rfl
  | true => exact suffix_of_mem_starts member

theorem matchPieces_cons (items : List Item) (ps : List Piece) (text : Bytes) :
    matchPieces (⟨star, items⟩ :: ps) text =
      if star && items.isEmpty then !text.contains slash
      else (((places star text).findSome? fun place =>
        (itemsFit? items place).filter fun left => left.isEmpty || !ps.isEmpty).map (matchPieces ps)).getD false := by
  rw [matchPieces]
  split
  · rfl
  · dsimp only [places]
    generalize List.findSome? _ _ = taken
    cases taken <;> rfl

/-- What a slash and the items of the next segment leave of what stands behind a segment. -/
def crossed (items : List Item) : Bytes → Option Bytes
  | [] => none
  | _ :: more => itemsFit? items more

theorem itemsFit?_slash (items : List Item) (plain : slash ∉ left) (behind : Behind rest) :
    itemsFit? (plainItem slash :: items) (left ++ rest) = if left = [] then crossed items rest else none := by
  have literal : plainItem slash = .literal slash := rfl
  rw [literal, itemsFit?]
  cases left with
  | nil => rcases behind with rfl | ⟨more, rfl⟩ <;> simp [Item.fits?, crossed]
  | cons b left =>
    have b_slash : b ≠ slash := fun same => plain (same ▸ List.mem_cons_self)
    simp [Item.fits?, b_slash]

/-- A pattern that begins with a segment: the items up to the first star, and the pieces from there on. -/
theorem Cut.front (cut : Cut q qs) : ∃ chunk more ps, q = chunk ++ more ∧ 42 ∉ chunk ∧
    (more = [] ∨ more.head? = some 42) ∧ Cut more ps ∧ ∀ text, matchPieces qs text =
      (((itemsFit? (chunk.map plainItem) text).filter fun left => left.isEmpty || !ps.isEmpty).map
        (matchPieces ps)).getD false := by
  cases cut with
  | done =>
    refine ⟨[], [], [], rfl, by simp, .inl rfl, .done, fun text => ?_⟩
    cases text <;> rfl
  | piece stars chunk more ps noStar filled ends cut =>
    cases stars with
    | zero =>
      refine ⟨chunk, more, ps, rfl, noStar, ends.imp_right And.right, cut, fun text => ?_⟩
      rw [matchPieces_cons]
      simp [places]
    | succ stars =>
      refine ⟨[], _, _, rfl, by simp, .inr rfl, .piece _ chunk more ps noStar filled ends cut, fun text => ?_⟩
      simp [itemsFit?, Option.filter]

theorem Cut.eq_nil (cut : Cut p ps) : p = [] ↔ ps = [] := by
  cases cut with
  | done => simp
  | piece stars chunk more ps noStar filled ends cut =>
    constructor
    · intro none
      obtain ⟨front, _⟩ := List.append_eq_nil_iff.mp none
      obtain ⟨no_stars, no_chunk⟩ := List.append_eq_nil_iff.mp front
      rcases filled with some | some
      · exact absurd (by simpa using no_stars) some
      · exact absurd no_chunk some
    · intro none
      cases none

theorem findSome?_congr {α β : Type} {f g : α → Option β} {xs : List α} (same : ∀ x ∈ xs, f x = g x) :
    xs.findSome? f = xs.findSome? g := by
  induction xs with
  | nil => rfl
  | cons x xs ih =>
    rw [List.findSome?_cons, List.findSome?_cons, same x List.mem_cons_self,
      ih fun y member => same y (List.mem_cons_of_mem _ member)]

theorem findSome?_ite {α β : Type} (p : α → Bool) (found : Option β) (xs : List α) :
    (xs.findSome? fun x => if p x then found else none) = if xs.any p then found else none := by
  induction xs with
  | nil => rfl
  | cons x xs ih =>
    rw [List.findSome?_cons, ih, List.any_cons]
    cases p x with
    | false => rfl
    | true => cases found <;> simp

/-- Whether items fit a text up to its end from one of some places on. -/
def fitsWhole (star : Bool) (items : List Item) (text : Bytes) : Bool :=
  (places star text).any fun place => itemsFit? items place == some []

theorem matchPieces_singleton (items : List Item) (plain : slash ∉ text) :
    matchPieces [⟨star, items⟩] text = fitsWhole star items text := by
  have last (place : Bytes) : (itemsFit? items place).filter (fun left => left.isEmpty || !([] : List Piece).isEmpty) =
      if itemsFit? items place == some [] then some [] else none := by
    cases itemsFit? items place with
    | none => rfl
    | some left => cases left <;> rfl
  rw [matchPieces_cons]
  split
  · rename_i bare
    obtain ⟨rfl, empty⟩ := (Bool.and_eq_true ..).mp bare
    obtain rfl := List.isEmpty_iff.mp empty
    have ends : [] ∈ starts text := by
      clear bare empty last
      induction text with
      | nil => exact List.mem_singleton_self _
      | cons b text ih =>
        have b_slash : b ≠ slash := fun same => plain (same ▸ List.mem_cons_self)
        rw [starts, if_neg (by simpa using b_slash)]
        exact List.mem_cons_of_mem _ (ih fun member => plain (List.mem_cons_of_mem _ member))
    have found : fitsWhole true [] text = true := List.any_eq_true.mpr ⟨[], ends, rfl⟩
    simp [found, plain]
  · simp only [last, findSome?_ite, fitsWhole]
    split <;> simp [*, matchPieces]

/-- The last piece of a pattern goes on with the first items of a pattern behind it. -/
theorem matchPieces_slash (free : slash ∉ chunk) (plain : slash ∉ text) (behind : Behind rest) (items : List Item)
    (ps : List Piece) : matchPieces (⟨star, chunk.map plainItem ++ plainItem slash :: items⟩ :: ps) (text ++ rest) =
      (matchPieces [⟨star, chunk.map plainItem⟩] text &&
        (((crossed items rest).filter fun left => left.isEmpty || !ps.isEmpty).map (matchPieces ps)).getD false) := by
  have fit (place : Bytes) (member : place ∈ places star text) :
      (itemsFit? (chunk.map plainItem ++ plainItem slash :: items) (place ++ rest)).filter
          (fun left => left.isEmpty || !ps.isEmpty) =
        if itemsFit? (chunk.map plainItem) place == some [] then
          (crossed items rest).filter fun left => left.isEmpty || !ps.isEmpty else none := by
    have plain' : slash ∉ place := fun inside => plain ((suffix_of_mem_places member).subset inside)
    rw [itemsFit?_concat, itemsFit?_append free plain' behind]
    cases fits : itemsFit? (chunk.map plainItem) place with
    | none => rfl
    | some left =>
      have plain'' : slash ∉ left := fun inside => plain' ((suffix_of_itemsFit? fits).subset inside)
      rw [Option.map_some, Option.bind_some, itemsFit?_slash items plain'' behind]
      cases left <;> rfl
  have filled : (chunk.map plainItem ++ plainItem slash :: items).isEmpty = false := by simp
  rw [matchPieces_cons, filled, Bool.and_false, if_neg Bool.false_ne_true, places_append plain behind, List.findSome?_map,
    Function.comp_def, findSome?_congr fit, findSome?_ite, matchPieces_singleton _ plain, fitsWhole]
  cases List.any _ _ <;> rfl

/-- A piece before a star is matched in the segment. -/
theorem matchPieces_star {gs : List Piece} (free : slash ∉ chunk) (filled : chunk ≠ []) (plain : slash ∉ text)
    (behind : Behind rest) (more_ps : ps ≠ []) (more_gs : gs ≠ []) {after : Bool}
    (matched : ∀ left, slash ∉ left → matchPieces gs (left ++ rest) = (matchPieces ps left && after)) :
    matchPieces (⟨star, chunk.map plainItem⟩ :: gs) (text ++ rest) =
      (matchPieces (⟨star, chunk.map plainItem⟩ :: ps) text && after) := by
  have bare : (chunk.map plainItem).isEmpty = false := by simpa using filled
  have fit (place : Bytes) (member : place ∈ places star text) :
      (itemsFit? (chunk.map plainItem) (place ++ rest)).filter (fun left => left.isEmpty || !gs.isEmpty) =
        ((itemsFit? (chunk.map plainItem) place).filter fun left => left.isEmpty || !ps.isEmpty).map (· ++ rest) := by
    have plain' : slash ∉ place := fun inside => plain ((suffix_of_mem_places member).subset inside)
    rw [itemsFit?_append free plain' behind]
    cases itemsFit? (chunk.map plainItem) place with
    | none => rfl
    | some left => simp [Option.filter, more_ps, more_gs]
  have all := (findSome?_congr fit).trans List.map_findSome?.symm
  rw [matchPieces_cons, matchPieces_cons, bare, Bool.and_false, if_neg Bool.false_ne_true, if_neg Bool.false_ne_true,
    places_append plain behind, List.findSome?_map, Function.comp_def, all]
  cases taken : List.findSome? _ (places star text) with
  | none => rfl
  | some left =>
    obtain ⟨place, member, fits⟩ := List.exists_of_findSome?_eq_some taken
    have left_suffix := suffix_of_itemsFit? (Option.filter_eq_some_iff.mp fits).1
    exact matched left fun inside => plain ((left_suffix.trans (suffix_of_mem_places member)).subset inside)

/-- A slash between two patterns matches a slash between two texts. -/
theorem Cut.slash (cut : Cut p ps) (nonempty : p ≠ []) (free : Glob.slash ∉ p) (cut' : Cut q qs) :
    ∃ gs, Cut (p ++ Glob.slash :: q) gs ∧ ∀ text rest, Glob.slash ∉ text → Behind rest →
      matchPieces gs (text ++ rest) = (matchPieces ps text && (rest.head? == some Glob.slash && matchPieces qs rest.tail)) := by
  induction cut with
  | done => exact absurd rfl nonempty
  | piece stars chunk more ps noStar filled ends cut ih =>
    have chunk_free : Glob.slash ∉ chunk := fun member => free (by simp [member])
    by_cases last : more = []
    · subst last
      obtain rfl := cut.eq_nil.mp rfl
      obtain ⟨front, more, others, rfl, front_noStar, ends', cut, matched⟩ := cut'.front
      have glued := Cut.piece stars (chunk ++ Glob.slash :: front) more others (by simp [noStar, front_noStar, Glob.slash])
        (.inr (by simp)) (ends'.imp_right fun starred => ⟨by simp, starred⟩) cut
      refine ⟨_, by simpa using glued, fun text rest plain behind => ?_⟩
      rw [matchPieces_slash chunk_free plain behind]
      rcases behind with rfl | ⟨more, rfl⟩
      · rfl
      · simp [crossed, matched]
    · obtain ⟨chunk_ne, next⟩ := ends.resolve_left last
      have more_free : Glob.slash ∉ more := fun member => free (by simp [member])
      obtain ⟨gs, glued, matched⟩ := ih last more_free
      have next' : (more ++ Glob.slash :: q).head? = some 42 := by simp [next]
      have whole := Cut.piece stars chunk _ gs noStar filled (.inr ⟨chunk_ne, next'⟩) glued
      refine ⟨_, by simpa using whole, fun text rest plain behind => ?_⟩
      exact matchPieces_star chunk_free chunk_ne plain behind (cut.eq_nil.not.mp last) (glued.eq_nil.not.mp (by simp))
        fun left left_plain => matched left rest left_plain behind

/-- A pattern without slashes matches no text that has one. -/
theorem Cut.not_match (cut : Cut p ps) (free : Glob.slash ∉ p) (inside : Glob.slash ∈ text) :
    matchPieces ps text = false := by
  induction cut generalizing text with
  | done => simpa [matchPieces] using List.ne_nil_of_mem inside
  | piece stars chunk more ps noStar filled ends cut ih =>
    have chunk_free : Glob.slash ∉ chunk := fun member => free (by simp [member])
    have more_free : Glob.slash ∉ more := fun member => free (by simp [member])
    obtain ⟨before, after, rfl, plain⟩ := List.eq_append_cons_of_mem inside
    have behind : Behind (Glob.slash :: after) := .inr ⟨after, rfl⟩
    rw [matchPieces_cons]
    split
    · simp
    · cases taken : List.findSome? _ (places _ (before ++ Glob.slash :: after)) with
      | none => rfl
      | some left =>
        refine ih more_free ?_
        obtain ⟨place, member, fits⟩ := List.exists_of_findSome?_eq_some taken
        rw [places_append plain behind] at member
        obtain ⟨start, listed, rfl⟩ := List.mem_map.mp member
        have plain' : Glob.slash ∉ start := fun inside => plain ((suffix_of_mem_places listed).subset inside)
        rw [itemsFit?_append chunk_free plain' behind] at fits
        obtain ⟨left, _, rfl⟩ := Option.map_eq_some_iff.mp (Option.filter_eq_some_iff.mp fits).1
        simp

theorem Cut.isMatch (cut : Cut p ps) (plain : Plain p) (text : Bytes) : Glob.isMatch p text = matchPieces ps text := by
  simp [Glob.isMatch, parse?, cut.pieces? plain (Nat.lt_succ_self _), accepts]

theorem Plain.slash (plain : Plain p) (plain' : Plain q) : Plain (p ++ Glob.slash :: q) := by
  intro b member
  rcases List.mem_append.mp member with first | second
  · exact plain b first
  · rcases List.mem_cons.mp second with rfl | second
    · decide
    · exact plain' b second

theorem plain_intercalate {parts : List Bytes} (plain : ∀ part ∈ parts, Plain part) :
    Plain ([slash].intercalate parts) := by
  induction parts with
  | nil => exact fun b member => absurd member (by simp)
  | cons part parts ih =>
    have first := plain part List.mem_cons_self
    cases parts with
    | nil => simpa using first
    | cons next parts =>
      rw [List.intercalate_cons_cons, List.append_assoc]
      exact first.slash (ih fun part member => plain part (List.mem_cons_of_mem _ member))

theorem isMatch_slash (plain : Plain p) (nonempty : p ≠ []) (free : slash ∉ p) (plain' : Plain q)
    (text_free : slash ∉ text) (behind : Behind rest) : isMatch (p ++ slash :: q) (text ++ rest) =
      (isMatch p text && (rest.head? == some slash && isMatch q rest.tail)) := by
  obtain ⟨ps, cut⟩ := exists_cut p
  obtain ⟨qs, cut'⟩ := exists_cut q
  obtain ⟨gs, glued, matched⟩ := cut.slash nonempty free cut'
  rw [glued.isMatch (plain.slash plain'), cut.isMatch plain, cut'.isMatch plain', matched text rest text_free behind]

/-- A pattern of several segments matches a text if its segments match those of the text. -/
theorem isMatch_segments {parts : List Bytes} (nonempty : parts ≠ [])
    (plain : ∀ part ∈ parts, Plain part ∧ part ≠ [] ∧ slash ∉ part) (text : Bytes) :
    isMatch ([slash].intercalate parts) text ↔
      List.Forall₂ (fun part segment => isMatch part segment) parts (List.splitOn slash text) := by
  induction parts generalizing text with
  | nil => exact absurd rfl nonempty
  | cons part parts ih =>
    obtain ⟨part_plain, part_ne, part_free⟩ := plain part List.mem_cons_self
    have others : ∀ part ∈ parts, Plain part ∧ part ≠ [] ∧ slash ∉ part :=
      fun part member => plain part (List.mem_cons_of_mem _ member)
    by_cases last : parts = []
    · subst last
      rw [List.intercalate_singleton]
      by_cases inside : slash ∈ text
      · obtain ⟨ps, cut⟩ := exists_cut part
        obtain ⟨before, after, rfl, free⟩ := List.eq_append_cons_of_mem inside
        rw [cut.isMatch part_plain, cut.not_match part_free inside, List.splitOn_append_cons_self,
          List.splitOn_eq_singleton free]
        cases split : List.splitOn slash after with
        | nil => simp at split
        | cons segment more => simp
      · simp [List.splitOn_eq_singleton inside]
    · obtain ⟨next, more, rfl⟩ := List.exists_cons_of_ne_nil last
      have others_plain := plain_intercalate fun part member => (others part member).1
      rw [List.intercalate_cons_cons, List.append_assoc, List.singleton_append]
      by_cases inside : slash ∈ text
      · obtain ⟨before, after, rfl, free⟩ := List.eq_append_cons_of_mem inside
        rw [isMatch_slash part_plain part_ne part_free others_plain free (.inr ⟨after, rfl⟩),
          List.splitOn_append_cons_self, List.splitOn_eq_singleton free, List.singleton_append, List.forall₂_cons,
          ← ih last others after]
        simp
      · have alone := isMatch_slash part_plain part_ne part_free others_plain inside (.inl rfl)
        rw [List.append_nil] at alone
        rw [alone, List.splitOn_eq_singleton inside]
        simp

/-! ## Patterns and paths as strings -/

/-- An ASCII byte of a string is a character of it. -/
theorem mem_ofString {s : String} {b : UInt8} (ascii : b < 0x80) (nonzero : Char.ofNat b.toNat ≠ Char.ofNat 0)
    (code : (Char.ofNat b.toNat).toNat = b.toNat) : b ∈ Bytes.ofString s ↔ Char.ofNat b.toNat ∈ s.toList := by
  constructor
  · intro member
    obtain ⟨before, after, shape⟩ := List.append_of_mem member
    have read := Bytes.chars_append ascii before after
    rw [← shape, Bytes.chars_ofString] at read
    simp [read]
  · intro member
    rw [← Bytes.chars_ofString] at member
    have small : b.toNat < 128 := UInt8.lt_iff_toNat_lt.mp ascii
    have found := Bytes.mem_of_mem_chars (by rwa [code]) nonzero member
    rwa [code, UInt8.ofNat_toNat] at found

theorem slash_mem_ofString {s : String} : slash ∈ Bytes.ofString s ↔ '/' ∈ s.toList :=
  mem_ofString (by decide) (by decide) (by decide)

theorem plain_ofString {s : String} (bracket : '[' ∉ s.toList) (backslash : '\\' ∉ s.toList) :
    Plain (Bytes.ofString s) := by
  intro b member
  constructor
  · rintro rfl
    exact bracket ((mem_ofString (by decide) (by decide) (by decide)).mp member)
  · rintro rfl
    exact backslash ((mem_ofString (by decide) (by decide) (by decide)).mp member)

theorem ofString_intercalate (parts : List String) :
    Bytes.ofString ("/".intercalate parts) = [slash].intercalate (parts.map Bytes.ofString) := by
  have slashes (a b : String) : Bytes.ofString (a ++ "/" ++ b) = Bytes.ofString a ++ [slash] ++ Bytes.ofString b := by
    rw [Bytes.ofString_eq, Bytes.ofString_eq, Bytes.ofString_eq, String.toList_append, String.toList_append,
      List.flatMap_append, List.flatMap_append]
    rfl
  induction parts with
  | nil => rfl
  | cons part parts ih =>
    cases parts with
    | nil => simp
    | cons next parts =>
      rw [String.intercalate_cons_cons, slashes, ih, List.map_cons, List.map_cons, List.map_cons,
        List.intercalate_cons_cons]

end DesignLint.Glob
