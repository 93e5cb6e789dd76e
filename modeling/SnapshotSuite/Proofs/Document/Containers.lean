import SnapshotSuite.Proofs.Document.Tokens

/-!
# Containers, part by part

What a reader of values, of items or of fields takes off a text, by the first character after the
blanks. Each equation leaves the proofs that something was taken out of sight, so that what is taken
can be followed from part to part.
-/

namespace SnapshotSuite

namespace Document

variable {α : Type} {room : Nat} {item : Reader Document} {cs ds es : List Char} {c : Char}

/-! ### Blanks -/

/-- A text of nothing but blanks. -/
def Blank (cs : List Char) : Prop :=
  ∀ c ∈ cs, isBlank c = true

lemma blank_nil : Blank [] := by
  simp [Blank]

/-- Blanks before a character that is none are passed over. -/
lemma skipBlanks_append_cons (hblank : Blank cs) (hc : isBlank c = false) (ds : List Char) :
    skipBlanks (cs ++ c :: ds) = c :: ds := by
  rw [skipBlanks, List.dropWhile_append_of_pos hblank, List.dropWhile_cons_of_neg (by simp [hc])]

lemma skipBlanks_cons (hc : isBlank c = false) (ds : List Char) : skipBlanks (c :: ds) = c :: ds :=
  skipBlanks_append_cons blank_nil hc ds

/-! ### One part after another -/

/-- A value, and the values that come after it. -/
def followedBy (first : Except Fault (α × List Char))
    (others : List Char → Except Fault (List α × List Char)) : Except Fault (List α × List Char) :=
  first.bind fun value => withValue (value.1 :: ·) (others value.2)

@[simp] lemma followedBy_ok (value : α × List Char)
    (others : List Char → Except Fault (List α × List Char)) :
    followedBy (.ok value) others = withValue (value.1 :: ·) (others value.2) := rfl

@[simp] lemma followedBy_error (fault : Fault)
    (others : List Char → Except Fault (List α × List Char)) :
    followedBy (.error fault) others = .error fault := rfl

/-! ### Values -/

/-- Where no container is opened, what stands inside one does not matter. -/
lemma takeOff_readValue_of_token {result : Except Fault (Document × List Char)}
    (h : ∀ array object, takeOff (readToken array object) (skipBlanks cs) = result) (room : Nat) :
    takeOff (readValue room) cs = result := by
  rw [takeOff_eq, readValue, taken_widen]
  exact h _ _

lemma takeOff_readValue_of_bracket (h : skipBlanks cs = '[' :: ds) :
    takeOff (readValue (room + 1)) cs =
      withValue array (takeOff (readArray (readValue room)) ds) := by
  rw [takeOff_eq, takeOff_eq, readValue, taken_widen, h, readToken, taken_widen, taken_map]

lemma takeOff_readValue_of_brace (h : skipBlanks cs = '{' :: ds) :
    takeOff (readValue (room + 1)) cs =
      withValue (fun fields => object (Fields.overlay [] fields))
        (takeOff (readObject (readValue room)) ds) := by
  rw [takeOff_eq, takeOff_eq, readValue, taken_widen, h, readToken, taken_widen, taken_map]

/-- With no container left to open, an opening bracket or brace is one too many. -/
lemma takeOff_readValue_zero (hc : c = '[' ∨ c = '{') (h : skipBlanks cs = c :: ds) :
    takeOff (readValue 0) cs = .error ⟨.tooDeep, ds, 0⟩ := by
  rw [takeOff_eq, readValue, taken_widen, h]
  rcases hc with rfl | rfl
  · rw [readToken, taken_widen, taken_error]
  · rw [readToken, taken_widen, taken_error]

/-! ### Items -/

lemma takeOff_readItems_of_close (h : skipBlanks cs = ']' :: ds) :
    takeOff (readItems item) cs = .ok ([], ds) := by
  rw [takeOff_eq, readItems]
  split <;> simp_all

/-- After a comma there is an item, and then its followers. -/
lemma takeOff_readItems_of_comma (h : skipBlanks cs = ',' :: ds) (hnext : skipBlanks ds = c :: es)
    (hc : c ≠ ']') :
    takeOff (readItems item) cs = followedBy (takeOff item ds) (takeOff (readItems item)) := by
  rw [takeOff_eq, takeOff_eq, readItems]
  split
  · simp_all
  · simp_all
  · next rest hcomma =>
    obtain rfl : ds = rest := by simpa [h] using hcomma
    split
    · simp_all
    · next more hclose =>
      exact absurd (List.cons.inj (hnext.symm.trans hclose)).1 hc
    · cases item ds with
      | error fault => rfl
      | ok first =>
        dsimp only [taken_ok, followedBy_ok, takeOff_eq]
        cases readItems item first.rest <;> rfl
  · simp_all

lemma takeOff_readArray_of_close (h : skipBlanks cs = ']' :: ds) :
    takeOff (readArray item) cs = .ok ([], ds) := by
  rw [takeOff_eq, readArray]
  split <;> simp_all

/-- An array that is not closed at once holds an item, and then its followers. -/
lemma takeOff_readArray_of_item (h : skipBlanks cs = c :: ds) (hc : c ≠ ']') :
    takeOff (readArray item) cs = followedBy (takeOff item cs) (takeOff (readItems item)) := by
  rw [takeOff_eq, takeOff_eq, readArray]
  split
  · simp_all
  · next rest hclose =>
    exact absurd (List.cons.inj (h.symm.trans hclose)).1 hc
  · cases item cs with
    | error fault => rfl
    | ok first =>
      dsimp only [taken_ok, followedBy_ok, takeOff_eq]
      cases readItems item first.rest <;> rfl

/-! ### Fields -/

lemma takeOff_readField {key : List Char} (hkey : takeOff readQuoted cs = .ok (key, ds))
    (hcolon : skipBlanks ds = ':' :: es) :
    takeOff (readField item) cs =
      withValue (fun value => (String.ofList key, value)) (takeOff item es) := by
  obtain ⟨quoted, hquoted, rfl, rfl⟩ := exists_of_takeOff_eq_ok hkey
  rw [takeOff_eq, takeOff_eq, readField, hquoted]
  dsimp only
  split
  · simp_all
  · next rest hrest =>
    obtain rfl : es = rest := by simpa [hcolon] using hrest
    cases item es <;> rfl
  · simp_all

lemma takeOff_readFields_of_close (h : skipBlanks cs = '}' :: ds) :
    takeOff (readFields item) cs = .ok ([], ds) := by
  rw [takeOff_eq, readFields]
  split <;> simp_all

/-- After a comma there is a field, and then its followers. -/
lemma takeOff_readFields_of_comma (h : skipBlanks cs = ',' :: ds)
    (hnext : skipBlanks ds = '"' :: es) :
    takeOff (readFields item) cs =
      followedBy (takeOff (readField item) es) (takeOff (readFields item)) := by
  rw [takeOff_eq, takeOff_eq, readFields]
  split
  · simp_all
  · simp_all
  · next rest hcomma =>
    obtain rfl : ds = rest := by simpa [h] using hcomma
    split
    · simp_all
    · simp_all
    · next more hquote =>
      obtain rfl : es = more := by simpa [hnext] using hquote
      cases readField item es with
      | error fault => rfl
      | ok first =>
        dsimp only [taken_ok, followedBy_ok, takeOff_eq]
        cases readFields item first.rest <;> rfl
    · simp_all
  · simp_all

lemma takeOff_readObject_of_close (h : skipBlanks cs = '}' :: ds) :
    takeOff (readObject item) cs = .ok ([], ds) := by
  rw [takeOff_eq, readObject]
  split <;> simp_all

/-- An object that is not closed at once holds a field, and then its followers. -/
lemma takeOff_readObject_of_quote (h : skipBlanks cs = '"' :: ds) :
    takeOff (readObject item) cs =
      followedBy (takeOff (readField item) ds) (takeOff (readFields item)) := by
  rw [takeOff_eq, takeOff_eq, readObject]
  split
  · simp_all
  · simp_all
  · next rest hquote =>
    obtain rfl : ds = rest := by simpa [h] using hquote
    cases readField item ds with
    | error fault => rfl
    | ok first =>
      dsimp only [taken_ok, followedBy_ok, takeOff_eq]
      cases readFields item first.rest <;> rfl
  · simp_all

/-! ### Whole texts -/

lemma read_of_takeOff_eq_ok {text : String} {document : Document}
    (h : takeOff (readValue maxDepth) text.toList = .ok (document, [])) :
    read text = .ok document := by
  obtain ⟨parsed, hread, hvalue, hrest⟩ := exists_of_takeOff_eq_ok h
  simp only [read, hread, hrest, hvalue]
  rfl

lemma read_of_takeOff_eq_error {text : String} {fault : Fault}
    (h : takeOff (readValue maxDepth) text.toList = .error fault) :
    read text = .error (fault.locate text.toList) := by
  rw [takeOff_eq] at h
  cases hread : readValue maxDepth text.toList with
  | error other =>
    rw [hread, taken_error] at h
    obtain rfl := Except.error.inj h
    simp only [read, hread]
  | ok parsed =>
    rw [hread] at h
    cases h

end Document

end SnapshotSuite
