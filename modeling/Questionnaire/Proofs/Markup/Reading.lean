/-
# Reading markup back

A plain reader of tags: attributes have their values in quotation marks or no value at all,
texts are what stands between tags, and five character references are known. It knows nothing
of elements and is not the reader of pages. Markup that is written out is read back as it was,
whatever characters its texts and values hold, because an escaped text opens no tag and an
escaped value ends no quotation. What is asked of the markup is that names are names, that no
text is empty, and that no two texts follow each other.
-/

import Mathlib.Data.List.Chain
import Questionnaire.Markup
import Questionnaire.Proofs.Text.Runs

namespace Questionnaire.Markup

/-! ## Reading -/

/-- The text with its character references replaced by the characters that they stand for.
There are five of them, and any other ampersand stands for itself. -/
def decode : List Char → List Char
  | [] => []
  | '&' :: 'a' :: 'm' :: 'p' :: ';' :: rest => '&' :: decode rest
  | '&' :: 'l' :: 't' :: ';' :: rest => '<' :: decode rest
  | '&' :: 'g' :: 't' :: ';' :: rest => '>' :: decode rest
  | '&' :: 'q' :: 'u' :: 'o' :: 't' :: ';' :: rest => '"' :: decode rest
  | '&' :: '#' :: 'x' :: '2' :: '7' :: ';' :: rest => '\'' :: decode rest
  | c :: rest => c :: decode rest

/-- The white space between the parts of a tag. -/
def isBlank (c : Char) : Bool :=
  c == ' ' || c == '\t' || c == '\n' || c == '\r' || c == '\x0c'

/-- The characters of names of tags and attributes. -/
def isNameCharacter (c : Char) : Bool :=
  !(isBlank c || c == '/' || c == '>' || c == '=' || c == '"' || c == '<')

/-- The name at the start of a text and what stands behind it. -/
def readName? (cs : List Char) : Option (String × List Char) :=
  match cs.takeWhile isNameCharacter with
  | [] => none
  | name => some (String.ofList name, cs.dropWhile isNameCharacter)

/-- The value behind the name of an attribute and what stands behind it. A name without a
value has the empty one. -/
def readValue? : List Char → Option (String × List Char)
  | '=' :: '"' :: quoted =>
    match quoted.dropWhile (· != '"') with
    | [] => none
    | _ :: rest => some (String.ofList (decode (quoted.takeWhile (· != '"'))), rest)
  | '=' :: _ => none
  | rest => some ("", rest)

/-- The attribute at the start of a text and what stands behind it. -/
def readAttribute? (cs : List Char) : Option ((String × String) × List Char) :=
  match readName? cs with
  | none => none
  | some (name, behind) => (readValue? behind).map fun (value, rest) => ((name, value), rest)

theorem length_readName_lt {cs rest : List Char} {name : String}
    (read : readName? cs = some (name, rest)) : rest.length < cs.length := by
  unfold readName? at read
  split at read
  · cases read
  · next nonempty =>
    cases read
    have whole := congrArg List.length
      (List.takeWhile_append_dropWhile (p := isNameCharacter) (l := cs))
    have positive := List.length_pos_iff.mpr nonempty
    rw [List.length_append] at whole
    omega

theorem length_readValue_le {cs rest : List Char} {value : String}
    (read : readValue? cs = some (value, rest)) : rest.length ≤ cs.length := by
  unfold readValue? at read
  split at read
  · next quoted =>
    split at read
    · cases read
    · next found =>
      cases read
      have shorter := Text.length_dropWhile_le (· != '"') quoted
      rw [found, List.length_cons] at shorter
      rw [List.length_cons, List.length_cons]
      omega
  · cases read
  · cases read
    exact Nat.le_refl _

theorem length_readAttribute_lt {cs rest : List Char} {entry : String × String}
    (read : readAttribute? cs = some (entry, rest)) : rest.length < cs.length := by
  unfold readAttribute? at read
  split at read
  · cases read
  · next found =>
    obtain ⟨⟨value, after⟩, readsValue, same⟩ := Option.map_eq_some_iff.mp read
    cases same
    exact (length_readValue_le readsValue).trans_lt (length_readName_lt found)

/-- The attributes of a tag up to its end, whether a slash stands before the end, and what
stands behind it. -/
def readAttributes? (cs : List Char) : Option (List (String × String) × Bool × List Char) :=
  match _start : cs.dropWhile isBlank with
  | '>' :: rest => some ([], false, rest)
  | '/' :: '>' :: rest => some ([], true, rest)
  | other =>
    match _found : readAttribute? other with
    | none => none
    | some (entry, rest) =>
      (readAttributes? rest).map fun (attributes, isVoid, after) =>
        (entry :: attributes, isVoid, after)
termination_by cs.length
decreasing_by
  have skipped := Text.length_dropWhile_le isBlank cs
  have shorter := length_readAttribute_lt _found
  rw [_start] at skipped
  omega

theorem length_readAttributes_lt {cs rest : List Char} {attributes : List (String × String)}
    {isVoid : Bool} (read : readAttributes? cs = some (attributes, isVoid, rest)) :
    rest.length < cs.length := by
  have skipped := Text.length_dropWhile_le isBlank cs
  rw [readAttributes?] at read
  split at read
  · next start =>
    cases read
    rw [start, List.length_cons] at skipped
    omega
  · next start =>
    cases read
    rw [start, List.length_cons, List.length_cons] at skipped
    omega
  · split at read
    · cases read
    · next found =>
      have shorter := length_readAttribute_lt found
      obtain ⟨⟨others, isVoid', after⟩, readsOthers, same⟩ := Option.map_eq_some_iff.mp read
      cases same
      have further := length_readAttributes_lt readsOthers
      omega
termination_by cs.length

/-- The tag behind an opening angle bracket and what stands behind it. -/
def readTag? : List Char → Option (Markup × List Char)
  | '/' :: cs =>
    match readName? cs with
    | some (name, '>' :: rest) => some (.endTag name, rest)
    | _ => none
  | cs =>
    match readName? cs with
    | none => none
    | some (name, behind) =>
      (readAttributes? behind).map fun (attributes, isVoid, rest) =>
        (if isVoid then .voidTag name attributes else .startTag name attributes, rest)

theorem length_readTag_lt {cs rest : List Char} {tag : Markup}
    (read : readTag? cs = some (tag, rest)) : rest.length < cs.length := by
  unfold readTag? at read
  split at read
  · split at read
    · next found =>
      cases read
      have shorter := length_readName_lt found
      rw [List.length_cons] at shorter ⊢
      omega
    · cases read
  · split at read
    · cases read
    · next found =>
      obtain ⟨⟨attributes, isVoid, after⟩, readsAttributes, same⟩ :=
        Option.map_eq_some_iff.mp read
      cases same
      exact (length_readAttributes_lt readsAttributes).trans (length_readName_lt found)

/-- Markup as its tags and the texts between them. -/
def read? : List Char → Option (List Markup)
  | [] => some []
  | '<' :: cs =>
    match _found : readTag? cs with
    | none => none
    | some (tag, rest) => (read? rest).map (tag :: ·)
  | c :: cs =>
    (read? (cs.dropWhile (· != '<'))).map
      (.text (String.ofList (decode (c :: cs.takeWhile (· != '<')))) :: ·)
termination_by cs => cs.length
decreasing_by
  · have shorter := length_readTag_lt _found
    rw [List.length_cons]
    omega
  · have skipped := Text.length_dropWhile_le (· != '<') cs
    rw [List.length_cons]
    omega

/-! ## Escaped characters -/

theorem decode_cons_of_ne {c : Char} (different : c ≠ '&') (rest : List Char) :
    decode (c :: rest) = c :: decode rest := by
  rw [decode] <;> intros <;> exact absurd ‹c = '&'› different

theorem decode_escapeText_append (c : Char) (rest : List Char) :
    decode (escapeText c ++ rest) = c :: decode rest := by
  unfold escapeText
  split
  · next isAmpersand =>
    obtain rfl := beq_iff_eq.mp isAmpersand
    rfl
  · next notAmpersand =>
    split
    · next isOpen =>
      obtain rfl := beq_iff_eq.mp isOpen
      rfl
    · split
      · next isClose =>
        obtain rfl := beq_iff_eq.mp isClose
        rfl
      · exact decode_cons_of_ne (by simpa using notAmpersand) rest

theorem decode_escapeValue_append (c : Char) (rest : List Char) :
    decode (escapeValue c ++ rest) = c :: decode rest := by
  unfold escapeValue
  split
  · next isQuote =>
    obtain rfl := beq_iff_eq.mp isQuote
    rfl
  · split
    · next isApostrophe =>
      obtain rfl := beq_iff_eq.mp isApostrophe
      rfl
    · exact decode_escapeText_append c rest

/-- What is escaped character by character is decoded to what it was. -/
theorem decode_flatMap {escape : Char → List Char}
    (undoes : ∀ c rest, decode (escape c ++ rest) = c :: decode rest) (cs : List Char) :
    decode (cs.flatMap escape) = cs := by
  induction cs with
  | nil => rfl
  | cons c rest ih => rw [List.flatMap_cons, undoes, ih]

/-- An escaped text opens no tag. -/
theorem no_tag_of_mem_escapeText {c d : Char} (member : d ∈ escapeText c) : (d != '<') = true := by
  rw [bne_iff_ne]
  rintro rfl
  unfold escapeText at member
  split at member
  · exact absurd member (by decide)
  · split at member
    · exact absurd member (by decide)
    · next notOpen =>
      split at member
      · exact absurd member (by decide)
      · exact notOpen (beq_iff_eq.mpr (List.mem_singleton.mp member).symm)

/-- An escaped value ends no quotation. -/
theorem no_quote_of_mem_escapeValue {c d : Char} (member : d ∈ escapeValue c) :
    (d != '"') = true := by
  rw [bne_iff_ne]
  rintro rfl
  unfold escapeValue escapeText at member
  split at member
  · exact absurd member (by decide)
  · next notQuote =>
    repeat' split at member
    all_goals first
      | exact absurd member (by decide)
      | exact notQuote (beq_iff_eq.mpr (List.mem_singleton.mp member).symm)

/-! ## Attributes -/

/-- A name of a tag or an attribute. -/
def IsName (name : String) : Prop :=
  name.toList ≠ [] ∧ ∀ c ∈ name.toList, isNameCharacter c = true

instance (name : String) : Decidable (IsName name) :=
  decidable_of_iff (name.toList ≠ [] ∧ name.toList.all isNameCharacter = true)
    (and_congr_right fun _ => List.all_eq_true)

/-- A text goes on neither with a name nor with a value. -/
def EndsAttribute (rest : List Char) : Prop :=
  Text.StopsAt (fun c => isNameCharacter c || c == '=') rest

theorem readName_written {name : String} (isName : IsName name) {rest : List Char}
    (stops : Text.StopsAt isNameCharacter rest) :
    readName? (name.toList ++ rest) = some (name, rest) := by
  unfold readName?
  rw [Text.takeWhile_run isName.2 stops, Text.dropWhile_run isName.2 stops]
  split
  · next empty => exact absurd empty isName.1
  · rw [String.ofList_toList]

theorem readValue_written (value : String) {rest : List Char} (ends : EndsAttribute rest) :
    readValue? ((if value = "" then []
      else '=' :: '"' :: value.toList.flatMap escapeValue ++ ['"']) ++ rest) =
      some (value, rest) := by
  split
  · next isEmpty =>
    subst isEmpty
    cases rest with
    | nil => rfl
    | cons c rest =>
        have notEquals : c ≠ '=' := by
          rintro rfl
          exact absurd (Text.stopsAt_cons.mp ends) (by decide)
        rw [List.nil_append]
        unfold readValue?
        split <;> simp_all
  · have inside : ∀ c ∈ value.toList.flatMap escapeValue, (c != '"') = true := by
      intro c member
      obtain ⟨d, _, escaped⟩ := List.mem_flatMap.mp member
      exact no_quote_of_mem_escapeValue escaped
    have stops : Text.StopsAt (· != '"') ('"' :: rest) := Text.stopsAt_cons.mpr (by decide)
    have cut : readValue? ('=' :: '"' :: (value.toList.flatMap escapeValue ++ '"' :: rest)) =
        some (String.ofList (decode (value.toList.flatMap escapeValue)), rest) := by
      rw [readValue?, Text.takeWhile_run inside stops, Text.dropWhile_run inside stops]
    rw [decode_flatMap decode_escapeValue_append, String.ofList_toList] at cut
    simpa using cut

theorem readAttribute_written {name : String} (isName : IsName name) (value : String)
    {rest : List Char} (ends : EndsAttribute rest) :
    readAttribute? (name.toList ++ ((if value = "" then []
      else '=' :: '"' :: value.toList.flatMap escapeValue ++ ['"']) ++ rest)) =
      some ((name, value), rest) := by
  have stops : Text.StopsAt isNameCharacter ((if value = "" then []
      else '=' :: '"' :: value.toList.flatMap escapeValue ++ ['"']) ++ rest) := by
    split
    · intro c first
      exact (Bool.or_eq_false_iff.mp (ends c first)).1
    · exact Text.stopsAt_cons.mpr (by decide)
  rw [readAttribute?, readName_written isName stops]
  simp only [readValue_written value ends, Option.map_some]

/-- What ends a tag. -/
def closing (isVoid : Bool) : List Char :=
  if isVoid then [' ', '/', '>'] else ['>']

theorem endsAttribute_attributes (attributes : List (String × String)) (isVoid : Bool)
    (rest : List Char) :
    EndsAttribute (attributes.flatMap renderAttribute ++ (closing isVoid ++ rest)) := by
  cases attributes with
  | nil => cases isVoid <;> exact Text.stopsAt_cons.mpr (by decide)
  | cons entry others => exact Text.stopsAt_cons.mpr (by decide)

/-- Where a name starts, an attribute is read and then the others. -/
theorem readAttributes_of_found {cs more rest : List Char} {first : Char}
    {entry : String × String} (start : cs.dropWhile isBlank = first :: more)
    (named : isNameCharacter first = true)
    (found : readAttribute? (first :: more) = some (entry, rest)) :
    readAttributes? cs = (readAttributes? rest).map fun (attributes, isVoid, after) =>
      (entry :: attributes, isVoid, after) := by
  rw [readAttributes?]
  split
  · next isEnd =>
    obtain ⟨rfl, -⟩ := List.cons.inj (start.symm.trans isEnd)
    exact absurd named (by decide)
  · next isEnd =>
    obtain ⟨rfl, -⟩ := List.cons.inj (start.symm.trans isEnd)
    exact absurd named (by decide)
  · rw [← start] at found
    split
    · next missing => cases missing.symm.trans found
    · next found' =>
      cases found'.symm.trans found
      rfl

/-- The attributes of a tag are read back up to its end. -/
theorem readAttributes_written {attributes : List (String × String)}
    (names : ∀ entry ∈ attributes, IsName entry.1) (isVoid : Bool) (rest : List Char) :
    readAttributes? (attributes.flatMap renderAttribute ++ (closing isVoid ++ rest)) =
      some (attributes, isVoid, rest) := by
  induction attributes with
  | nil =>
      rw [readAttributes?]
      cases isVoid <;> rfl
  | cons entry others ih =>
      obtain ⟨name, value⟩ := entry
      obtain ⟨isName, areNames⟩ := List.forall_mem_cons.mp names
      have found := readAttribute_written isName value
        (endsAttribute_attributes others isVoid rest)
      obtain ⟨first, more, isFirst⟩ := List.exists_cons_of_ne_nil isName.1
      have named : isNameCharacter first = true := isName.2 first (by simp [isFirst])
      have notBlank : isBlank first = false := by
        cases blank : isBlank first with
        | false => rfl
        | true => simp [isNameCharacter, blank] at named
      rw [isFirst, List.cons_append] at found
      rw [readAttributes_of_found ?_ named found, ih areNames]
      · rfl
      · simp [renderAttribute, isFirst, notBlank, show isBlank ' ' = true from rfl]

/-! ## Tags and texts -/

/-- A piece of markup that can be read back by itself: its names are names, and a text is
not empty. -/
def IsPlain : Markup → Prop
  | .startTag name attributes => IsName name ∧ ∀ entry ∈ attributes, IsName entry.1
  | .voidTag name attributes => IsName name ∧ ∀ entry ∈ attributes, IsName entry.1
  | .endTag name => IsName name
  | .text content => content ≠ ""

/-- A piece of markup that is no text. -/
def IsTag : Markup → Prop
  | .text _ => False
  | _ => True

theorem readTag_open {name : String} (isName : IsName name)
    {attributes : List (String × String)} (names : ∀ entry ∈ attributes, IsName entry.1)
    (isVoid : Bool) (rest : List Char) :
    readTag? (name.toList ++ (attributes.flatMap renderAttribute ++ (closing isVoid ++ rest))) =
      some (if isVoid then .voidTag name attributes else .startTag name attributes, rest) := by
  have stops : Text.StopsAt isNameCharacter
      (attributes.flatMap renderAttribute ++ (closing isVoid ++ rest)) := by
    intro c first
    exact (Bool.or_eq_false_iff.mp (endsAttribute_attributes attributes isVoid rest c first)).1
  unfold readTag?
  split
  · next slash =>
    obtain ⟨first, more, isFirst⟩ := List.exists_cons_of_ne_nil isName.1
    rw [isFirst, List.cons_append] at slash
    obtain ⟨rfl, -⟩ := List.cons.inj slash
    exact absurd (isName.2 '/' (by simp [isFirst])) (by decide)
  · rw [readName_written isName stops]
    simp only [readAttributes_written names, Option.map_some]

/-- A tag is read back. -/
theorem read_tag {tag : Markup} (plain : tag.IsPlain) (isTag : tag.IsTag) (rest : List Char) :
    read? (tag.renderPiece ++ rest) = (read? rest).map (tag :: ·) := by
  have reads : ∃ inside, tag.renderPiece ++ rest = '<' :: inside ∧
      readTag? inside = some (tag, rest) := by
    cases tag with
    | startTag name attributes =>
        refine ⟨_, ?_, readTag_open plain.1 plain.2 false rest⟩
        simp [renderPiece, closing]
    | voidTag name attributes =>
        refine ⟨_, ?_, readTag_open plain.1 plain.2 true rest⟩
        simp [renderPiece, closing]
    | endTag name =>
        refine ⟨'/' :: (name.toList ++ '>' :: rest), by simp [renderPiece], ?_⟩
        rw [readTag?, readName_written plain (Text.stopsAt_cons.mpr (by decide))]
        rfl
    | text content => exact False.elim isTag
  obtain ⟨inside, text, found⟩ := reads
  rw [text, read?]
  split
  · next missing => cases missing.symm.trans found
  · next found' =>
    cases found'.symm.trans found
    rfl

/-- A text is read back where a tag follows it, or nothing. -/
theorem read_text {content : String} (nonempty : content ≠ "") {rest : List Char}
    (stops : Text.StopsAt (· != '<') rest) :
    read? ((Markup.text content).renderPiece ++ rest) =
      (read? rest).map (.text content :: ·) := by
  have inside : ∀ c ∈ content.toList.flatMap escapeText, (c != '<') = true := by
    intro c member
    obtain ⟨d, _, escaped⟩ := List.mem_flatMap.mp member
    exact no_tag_of_mem_escapeText escaped
  have decoded : String.ofList (decode (content.toList.flatMap escapeText)) = content := by
    rw [decode_flatMap decode_escapeText_append, String.ofList_toList]
  rw [renderPiece]
  cases written : content.toList.flatMap escapeText with
  | nil =>
      rw [written] at decoded
      exact absurd decoded.symm nonempty
  | cons c others =>
      obtain ⟨notTag, othersInside⟩ := List.forall_mem_cons.mp (written ▸ inside)
      rw [List.cons_append, read?, Text.takeWhile_run othersInside stops,
        Text.dropWhile_run othersInside stops, ← written, decoded]
      rintro rfl
      exact absurd notTag (by decide)

/-- Where a tag stands, or nothing, a text does not go on. -/
theorem stopsAt_tags {pieces : List Markup} (starts : ∀ piece ∈ pieces.head?, piece.IsTag) :
    Text.StopsAt (· != '<') (pieces.flatMap renderPiece) := by
  cases pieces with
  | nil => exact Text.stopsAt_nil
  | cons piece others =>
      cases piece with
      | startTag _ _ | voidTag _ _ | endTag _ => exact Text.stopsAt_cons.mpr (by decide)
      | text content => exact False.elim (starts _ rfl)

/-- Plain markup in which no two texts follow each other is read back. -/
theorem read_render {pieces : List Markup} (plain : ∀ piece ∈ pieces, piece.IsPlain)
    (apart : pieces.IsChain fun first second => first.IsTag ∨ second.IsTag) :
    read? (pieces.flatMap renderPiece) = some pieces := by
  induction pieces with
  | nil => rw [List.flatMap_nil, read?]
  | cons piece others ih =>
      obtain ⟨isPlain, arePlain⟩ := List.forall_mem_cons.mp plain
      have below := ih arePlain apart.tail
      rw [List.flatMap_cons]
      cases piece with
      | startTag _ _ | voidTag _ _ | endTag _ => rw [read_tag isPlain trivial, below]; rfl
      | text content =>
          rw [read_text isPlain (stopsAt_tags ?_), below]
          · rfl
          · intro next isNext
            exact ((List.isChain_cons.mp apart).1 next isNext).resolve_left id

end Questionnaire.Markup
