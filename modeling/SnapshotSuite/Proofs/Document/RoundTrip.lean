import SnapshotSuite.Document.Printer
import SnapshotSuite.Proofs.Document.Containers
import SnapshotSuite.Proofs.Document.Depth
import SnapshotSuite.Proofs.Document.Overlay

/-!
# Documents written and read back

A document whose numbers are whole numbers of 64 bits is read back from its text, in either layout,
as long as no more containers stand inside one another than the reader opens. Any deeper document is
refused for that reason and no other. `TakenIf` states the two cases together: the items and fields
before the first one that is too deep have to be read in either case.
-/

namespace SnapshotSuite

namespace Document

variable {α β : Type} {room level : Nat} {layout : Layout} {document : Document}
  {blanks rest : List Char} {c : Char} {fits others : Prop}

/-! ### What is taken, if it fits -/

/-- A value is taken off a text if it fits, and otherwise there are too many containers in it. -/
structure TakenIf (fits : Prop) (result : Except Fault (α × List Char)) (value : α × List Char) :
    Prop where
  ok : fits → result = .ok value
  tooDeep : ¬ fits → ∃ fault, fault.cause = .tooDeep ∧ result = .error fault

lemma takenIf_of_eq_ok {result : Except Fault (α × List Char)} {value : α × List Char}
    (hfits : fits) (h : result = .ok value) : TakenIf fits result value :=
  ⟨fun _ => h, fun hnot => absurd hfits hnot⟩

lemma TakenIf.withValue {result : Except Fault (α × List Char)} {value : α × List Char}
    (h : TakenIf fits result value) (f : α → β) :
    TakenIf fits (withValue f result) (f value.1, value.2) where
  ok hfits := by
    rw [h.ok hfits, withValue_ok]
  tooDeep hnot := by
    obtain ⟨fault, hcause, hresult⟩ := h.tooDeep hnot
    exact ⟨fault, hcause, by rw [hresult, withValue_error]⟩

/-- A value and the values after it all have to fit. -/
lemma TakenIf.followedBy {first : Except Fault (α × List Char)} {value : α × List Char}
    {next : List Char → Except Fault (List α × List Char)} {values : List α × List Char}
    (hfirst : TakenIf fits first value) (hnext : TakenIf others (next value.2) values) :
    TakenIf (fits ∧ others) (followedBy first next) (value.1 :: values.1, values.2) where
  ok h := by
    rw [hfirst.ok h.1, followedBy_ok, hnext.ok h.2, withValue_ok]
  tooDeep hnot := by
    by_cases hfits : fits
    · obtain ⟨fault, hcause, hresult⟩ := hnext.tooDeep fun h => hnot ⟨hfits, h⟩
      exact ⟨fault, hcause, by rw [hfirst.ok hfits, followedBy_ok, hresult, withValue_error]⟩
    · obtain ⟨fault, hcause, hresult⟩ := hfirst.tooDeep hfits
      exact ⟨fault, hcause, by rw [hresult, followedBy_error]⟩

/-! ### The texts of documents -/

/-- Nothing but blanks stands on a line before its item, or between a colon and a value. -/
structure Layout.Spaced (layout : Layout) : Prop where
  line (level : Nat) : Blank (layout.line level)
  colon : ∃ gap, Blank gap ∧ layout.colon = ':' :: gap

lemma spaced_pretty : Layout.Spaced .pretty where
  line level := by
    refine List.forall_mem_cons.mpr ⟨by decide, fun c hc => ?_⟩
    obtain rfl := List.eq_of_mem_replicate hc
    decide
  colon := ⟨[' '], by simp [Blank, isBlank], rfl⟩

/-- Every number of the document is a whole number of 64 bits, with a sign or without one. -/
inductive Integral : Document → Prop
  | null : Integral .null
  | bool (value : Bool) : Integral (.bool value)
  | number {value : Int} (hleast : -0x8000000000000000 ≤ value)
      (hgreatest : value < 0x10000000000000000) : Integral (.number (.integer value))
  | string (value : String) : Integral (.string value)
  | array {items : List Document} (hitems : ∀ item ∈ items, Integral item) :
      Integral (.array items)
  | object {fields : Fields} (hfields : ∀ field ∈ fields, Integral field.2) :
      Integral (.object fields)

/-! ### Reading them back -/

/-- However deep a document stands, it is taken off its text if the reader can open as many
containers as it has inside one another. Its text begins where the blanks before it end, and does
not look like the end of an array. -/
structure ReadBack (layout : Layout) (document : Document) : Prop where
  begins (level : Nat) :
    ∃ c cs, write layout level document = c :: cs ∧ isBlank c = false ∧ c ≠ ']'
  takenIf (level room : Nat) {blanks rest : List Char} (hblank : Blank blanks)
    (hrest : EndsNumber rest) :
    TakenIf (document.depth ≤ room)
      (takeOff (readValue room) (blanks ++ (write layout level document ++ rest))) (document, rest)

/-- After the blanks there is something, and it does not close an array. -/
lemma ReadBack.exists_skipBlanks (h : ReadBack layout document) (level : Nat)
    (hblank : Blank blanks) (rest : List Char) :
    ∃ c cs, skipBlanks (blanks ++ (write layout level document ++ rest)) = c :: cs ∧ c ≠ ']' := by
  obtain ⟨c, cs, hwrite, hc, hclose⟩ := h.begins level
  refine ⟨c, cs ++ rest, ?_, hclose⟩
  rw [hwrite, List.cons_append, skipBlanks_append_cons hblank hc]

/-- Blanks end a number, as what comes after them does. -/
lemma endsNumber_append_cons (hblank : Blank blanks) (hc : EndsNumber (c :: rest)) :
    EndsNumber (blanks ++ c :: rest) := by
  cases blanks with
  | nil => exact hc
  | cons blank blanks =>
    intro d hd
    obtain rfl := Option.some.inj hd
    have hblank := (List.forall_mem_cons.mp hblank).1
    simp only [isBlank, Bool.or_eq_true, decide_eq_true_eq] at hblank
    obtain ((rfl | rfl) | rfl) | rfl := hblank <;> decide

lemma endsNumber_cons (hc : c = ',' ∨ c = ']' ∨ c = '}') (rest : List Char) :
    EndsNumber (c :: rest) := by
  intro d hd
  obtain rfl := Option.some.inj hd
  obtain rfl | rfl | rfl := hc <;> decide

lemma endsNumber_writeItems (items : List Document) (layout : Layout) (level : Nat)
    (hblank : Blank blanks) (rest : List Char) :
    EndsNumber (writeItems layout level items ++ (blanks ++ ']' :: rest)) := by
  cases items with
  | nil =>
    rw [writeItems]
    exact endsNumber_append_cons hblank (endsNumber_cons (by simp) rest)
  | cons item items =>
    rw [writeItems]
    exact endsNumber_cons (by simp) _

lemma endsNumber_writeFields (fields : Fields) (layout : Layout) (level : Nat)
    (hblank : Blank blanks) (rest : List Char) :
    EndsNumber (writeFields layout level fields ++ (blanks ++ '}' :: rest)) := by
  cases fields with
  | nil =>
    rw [writeFields]
    exact endsNumber_append_cons hblank (endsNumber_cons (by simp) rest)
  | cons field fields =>
    rw [writeFields]
    exact endsNumber_cons (by simp) _

section Containers

variable {items : List Document} {fields : Fields} (hspaced : layout.Spaced)
include hspaced

/-- The items behind commas are taken in order. -/
lemma takenIf_readItems (hitems : ∀ item ∈ items, ReadBack layout item) (level room : Nat)
    (hblank : Blank blanks) (rest : List Char) :
    TakenIf (∀ item ∈ items, item.depth ≤ room)
      (takeOff (readItems (readValue room))
        (writeItems layout level items ++ (blanks ++ ']' :: rest))) (items, rest) := by
  -- What an item leaves is the text of the items after it, down to the bracket.
  induction items with
  | nil =>
    have hclose : skipBlanks (blanks ++ ']' :: rest) = ']' :: rest :=
      skipBlanks_append_cons hblank (by decide) rest
    rw [writeItems]
    exact takenIf_of_eq_ok (by simp) (takeOff_readItems_of_close hclose)
  | cons item items ih =>
    obtain ⟨hitem, hmore⟩ := List.forall_mem_cons.mp hitems
    have hline := hspaced.line level
    obtain ⟨c, cs, hnext, hopen⟩ := hitem.exists_skipBlanks level hline
      (writeItems layout level items ++ (blanks ++ ']' :: rest))
    have hends := endsNumber_writeItems items layout level hblank rest
    simp only [writeItems, List.cons_append, List.append_assoc]
    rw [takeOff_readItems_of_comma (skipBlanks_cons (by decide) _) hnext hopen,
      List.forall_mem_cons]
    exact (hitem.takenIf level room hline hends).followedBy (ih hmore)

/-- A key, a colon and a value are taken together, after the opening quote of the key. -/
lemma takenIf_readField (hvalue : ReadBack layout document) (key : String) (level room : Nat)
    (hrest : EndsNumber rest) :
    TakenIf (document.depth ≤ room)
      (takeOff (readField (readValue room))
        (key.toList.flatMap escape ++ '"' :: (layout.colon ++
          (write layout level document ++ rest)))) ((key, document), rest) := by
  obtain ⟨gap, hgap, hcolon⟩ := hspaced.colon
  rw [hcolon, List.cons_append, takeOff_readField (takeOff_readQuoted _ _)
    (skipBlanks_cons (by decide) _), String.ofList_toList]
  exact (hvalue.takenIf level room hgap hrest).withValue _

/-- The fields behind commas are taken in order. -/
lemma takenIf_readFields (hfields : ∀ field ∈ fields, ReadBack layout field.2) (level room : Nat)
    (hblank : Blank blanks) (rest : List Char) :
    TakenIf (∀ field ∈ fields, field.2.depth ≤ room)
      (takeOff (readFields (readValue room))
        (writeFields layout level fields ++ (blanks ++ '}' :: rest))) (fields, rest) := by
  induction fields with
  | nil =>
    have hclose : skipBlanks (blanks ++ '}' :: rest) = '}' :: rest :=
      skipBlanks_append_cons hblank (by decide) rest
    rw [writeFields]
    exact takenIf_of_eq_ok (by simp) (takeOff_readFields_of_close hclose)
  | cons field fields ih =>
    obtain ⟨key, value⟩ := field
    obtain ⟨hvalue, hmore⟩ := List.forall_mem_cons.mp hfields
    simp only [writeFields, writeString, List.cons_append, List.append_assoc, List.nil_append]
    rw [takeOff_readFields_of_comma (skipBlanks_cons (by decide) _)
      (skipBlanks_append_cons (hspaced.line level) (by decide) _), List.forall_mem_cons]
    have hends := endsNumber_writeFields fields layout level hblank rest
    exact (takenIf_readField hspaced hvalue key level room hends).followedBy (ih hmore)

/-! ### Documents of each kind -/

omit hspaced in
/-- With no container left to open, an array or an object is one too many. -/
lemma takenIf_zero {cs : List Char} (hc : c = '[' ∨ c = '{')
    (hwrite : write layout level document = c :: cs) (hdepth : 0 < document.depth)
    (hblank : Blank blanks) (rest : List Char) :
    TakenIf (document.depth ≤ 0)
      (takeOff (readValue 0) (blanks ++ (write layout level document ++ rest)))
      (document, rest) where
  ok hfits := absurd hdepth (Nat.not_lt.mpr hfits)
  tooDeep _ := by
    have hopen : isBlank c = false := by
      obtain rfl | rfl := hc <;> decide
    rw [hwrite, List.cons_append,
      takeOff_readValue_zero hc (skipBlanks_append_cons hblank hopen (cs ++ rest))]
    exact ⟨_, rfl, rfl⟩

lemma readBack_array (hitems : ∀ item ∈ items, ReadBack layout item) :
    ReadBack layout (array items) := by
  have hwrite : ∀ level, ∃ cs, write layout level (array items) = '[' :: cs := by
    intro level
    cases items with
    | nil => exact ⟨_, rfl⟩
    | cons item items => exact ⟨_, rfl⟩
  refine ⟨fun level => ?_, fun level room blanks rest hblank _ => ?_⟩
  · obtain ⟨cs, hcs⟩ := hwrite level
    exact ⟨'[', cs, hcs, by decide, by decide⟩
  · cases room with
    | zero =>
      obtain ⟨cs, hcs⟩ := hwrite level
      exact takenIf_zero (.inl rfl) hcs (by simp [depth]) hblank rest
    | succ room =>
      have hopen := fun cs => skipBlanks_append_cons (c := '[') hblank (by decide) cs
      rw [depth_array_le_iff]
      cases items with
      | nil =>
        refine takenIf_of_eq_ok (by simp) ?_
        simp only [write, List.cons_append, List.nil_append]
        rw [takeOff_readValue_of_bracket (hopen _),
          takeOff_readArray_of_close (skipBlanks_cons (by decide) rest), withValue_ok]
      | cons item items =>
        obtain ⟨hitem, hmore⟩ := List.forall_mem_cons.mp hitems
        have hline := hspaced.line (level + 1)
        obtain ⟨c, cs, hnext, hclose⟩ := hitem.exists_skipBlanks (level + 1) hline
          (writeItems layout (level + 1) items ++ (layout.line level ++ ']' :: rest))
        have hends := endsNumber_writeItems items layout (level + 1) (hspaced.line level) rest
        have htaken := (hitem.takenIf (level + 1) room hline hends).followedBy
          (takenIf_readItems hspaced hmore (level + 1) room (hspaced.line level) rest)
        simp only [write, List.cons_append, List.append_assoc, List.nil_append]
        rw [takeOff_readValue_of_bracket (hopen _), takeOff_readArray_of_item hnext hclose,
          List.forall_mem_cons]
        exact htaken.withValue array

lemma readBack_object (hunique : Fields.Unique fields)
    (hfields : ∀ field ∈ fields, ReadBack layout field.2) : ReadBack layout (object fields) := by
  have hwrite : ∀ level, ∃ cs, write layout level (object fields) = '{' :: cs := by
    intro level
    cases fields with
    | nil => exact ⟨_, rfl⟩
    | cons field fields => exact ⟨_, rfl⟩
  refine ⟨fun level => ?_, fun level room blanks rest hblank _ => ?_⟩
  · obtain ⟨cs, hcs⟩ := hwrite level
    exact ⟨'{', cs, hcs, by decide, by decide⟩
  · cases room with
    | zero =>
      obtain ⟨cs, hcs⟩ := hwrite level
      exact takenIf_zero (.inr rfl) hcs (by simp [depth]) hblank rest
    | succ room =>
      have hopen := fun cs => skipBlanks_append_cons (c := '{') hblank (by decide) cs
      rw [depth_object_le_iff]
      cases fields with
      | nil =>
        refine takenIf_of_eq_ok (by simp) ?_
        simp only [write, List.cons_append, List.nil_append]
        rw [takeOff_readValue_of_brace (hopen _),
          takeOff_readObject_of_close (skipBlanks_cons (by decide) rest), withValue_ok,
          Fields.overlay_nil]
      | cons field fields =>
        obtain ⟨key, value⟩ := field
        obtain ⟨hvalue, hmore⟩ := List.forall_mem_cons.mp hfields
        have hends := endsNumber_writeFields fields layout (level + 1) (hspaced.line level) rest
        have htaken := (takenIf_readField hspaced hvalue key (level + 1) room hends).followedBy
          (takenIf_readFields hspaced hmore (level + 1) room (hspaced.line level) rest)
        -- The reader sets the fields one by one, which gives them as they are: no key is repeated.
        have hobject := htaken.withValue fun fields => object (Fields.overlay [] fields)
        dsimp only at hobject
        rw [Fields.overlay_nil_left hunique] at hobject
        simp only [write, writeString, List.cons_append, List.append_assoc, List.nil_append]
        rw [takeOff_readValue_of_brace (hopen _), takeOff_readObject_of_quote
          (skipBlanks_append_cons (hspaced.line (level + 1)) (by decide) _), List.forall_mem_cons]
        exact hobject

end Containers

/-- A value that opens no container is read back from one token. -/
lemma readBack_of_token {cs : List Char} (hwrite : ∀ level, write layout level document = c :: cs)
    (hc : isBlank c = false ∧ c ≠ ']') (hdepth : document.depth = 0)
    (hread : ∀ array object rest, EndsNumber rest →
      takeOff (readToken array object) (c :: cs ++ rest) = .ok (document, rest)) :
    ReadBack layout document := by
  refine ⟨fun level => ⟨c, cs, hwrite level, hc⟩, fun level room blanks rest hblank hrest => ?_⟩
  refine takenIf_of_eq_ok (hdepth.le.trans (Nat.zero_le room)) ?_
  refine takeOff_readValue_of_token (fun array object => ?_) room
  rw [hwrite, List.cons_append, skipBlanks_append_cons hblank hc.1]
  exact hread array object rest hrest

/-- The text of a whole number begins with a digit or with its sign. -/
lemma exists_writeInteger_eq_cons (value : Int) :
    ∃ c cs, Number.writeInteger value = c :: cs ∧ isBlank c = false ∧ c ≠ ']' := by
  unfold Number.writeInteger
  split_ifs
  · exact ⟨'-', _, rfl, by decide, by decide⟩
  · obtain ⟨c, digits, hdigits, hc, -⟩ := exists_toDigits_eq_cons value.natAbs
    have hblank : isBlank c = false := by
      simp [isBlank, ne_of_isDigit hc]
    exact ⟨c, digits, hdigits, hblank, ne_of_isDigit hc (by decide)⟩

/-- Documents of whole numbers are read back, if no object has a key twice. -/
lemma readBack (hspaced : layout.Spaced) (hintegral : document.Integral)
    (hunique : document.UniqueKeys) : ReadBack layout document := by
  -- On the document; how deep it stands and what comes after it is left open in `ReadBack`.
  induction hintegral with
  | null => exact readBack_of_token (fun _ => rfl) (by decide) rfl fun _ _ _ _ => rfl
  | bool value =>
    cases value with
    | true => exact readBack_of_token (fun _ => rfl) (by decide) rfl fun _ _ _ _ => rfl
    | false => exact readBack_of_token (fun _ => rfl) (by decide) rfl fun _ _ _ _ => rfl
  | @number value hleast hgreatest =>
    obtain ⟨c, cs, hwrite, hc⟩ := exists_writeInteger_eq_cons value
    refine readBack_of_token (fun _ => hwrite) hc rfl fun array object rest hrest => ?_
    rw [← hwrite]
    exact takeOff_readToken_integer array object hleast hgreatest hrest
  | string value =>
    exact readBack_of_token (fun _ => rfl) (by decide) rfl fun array object rest _ =>
      takeOff_readToken_string array object value rest
  | array _ ih =>
    have hitems := uniqueKeys_array_iff.mp hunique
    exact readBack_array hspaced fun item hitem => ih item hitem (hitems item hitem)
  | object _ ih =>
    obtain ⟨hkeys, hfields⟩ := uniqueKeys_object_iff.mp hunique
    exact readBack_object hspaced hkeys fun field hfield => ih field hfield (hfields field hfield)

/-! ### Whole texts -/

/-- A document that is not too deep is what its text holds. -/
theorem read_write (hspaced : layout.Spaced) (hintegral : document.Integral)
    (hunique : document.UniqueKeys) (hdepth : document.depth ≤ maxDepth) :
    read (String.ofList (write layout 0 document)) = .ok document := by
  have htaken := (readBack hspaced hintegral hunique).takenIf 0 maxDepth blank_nil endsNumber_nil
  rw [List.nil_append, List.append_nil] at htaken
  refine read_of_takeOff_eq_ok ?_
  rw [String.toList_ofList]
  exact htaken.ok hdepth

theorem read_pretty (hintegral : document.Integral) (hunique : document.UniqueKeys)
    (hdepth : document.depth ≤ maxDepth) : read document.pretty = .ok document :=
  read_write spaced_pretty hintegral hunique hdepth

/-- A document that is too deep is refused for being so. -/
theorem exists_read_write_eq_error (hspaced : layout.Spaced) (hintegral : document.Integral)
    (hunique : document.UniqueKeys) (hdepth : maxDepth < document.depth) :
    ∃ error, read (String.ofList (write layout 0 document)) = .error error ∧
      error.cause = .tooDeep := by
  have htaken := (readBack hspaced hintegral hunique).takenIf 0 maxDepth blank_nil endsNumber_nil
  rw [List.nil_append, List.append_nil] at htaken
  obtain ⟨fault, hcause, hfault⟩ := htaken.tooDeep (Nat.not_le.mpr hdepth)
  refine ⟨fault.locate _, read_of_takeOff_eq_error ?_, hcause⟩
  rw [String.toList_ofList]
  exact hfault

end Document

end SnapshotSuite
