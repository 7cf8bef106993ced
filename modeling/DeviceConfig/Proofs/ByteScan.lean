import DeviceConfig.Placeholder.ByteScan
import DeviceConfig.Proofs.Segmentation
import DeviceConfig.Proofs.Utf8

/-!
# Scanning bytes safely

A scan over bytes never comes to an offset at which they cannot be cut: turn by turn it does
what the scan over characters does.
-/

namespace DeviceConfig

/-! ## Bytes of characters -/

theorem encode_placeholder (content : String) :
    Text.encode (placeholder content.toList) = placeholderBytes content := by
  rw [placeholder, Text.encode_append, Text.encode_append, encode_toList]
  rfl

/-- A turn over characters as a turn over their bytes. -/
def Turn.encode (turn : Turn) : ByteTurn :=
  ⟨Text.encode turn.before, turn.found, Text.encode turn.rest⟩

theorem Turn.taken_encode (turn : Turn) : turn.encode.taken = Text.encode turn.taken := by
  obtain ⟨before, _ | id, rest⟩ := turn
  · rfl
  · exact (encode_placeholder id.text).symm

theorem Turn.written_encode (key : FieldId → String) (turn : Turn) :
    turn.encode.written key = Text.encode (turn.written key) := by
  obtain ⟨before, _ | id, rest⟩ := turn
  · rfl
  · exact (encode_placeholder (key id)).symm

theorem Turn.takenSize_found (turn : Turn) :
    takenSize turn.found = (Text.encode turn.taken).length := by
  rw [← taken_encode]
  obtain ⟨before, _ | id, rest⟩ := turn
  · rfl
  · simp [takenSize, encode, ByteTurn.taken, placeholderBytes, length_utf8Bytes, Name.byteSize,
      Nat.add_assoc]

theorem idAt_encode (ids : List FieldId) (candidate : List Char) :
    idAt ids (Text.encode candidate) = longestId (matchingIds ids candidate) := by
  have hmatch : (ids.filter fun id =>
      (placeholderBytes id.text).isPrefixOf (Text.encode candidate)) =
        matchingIds ids candidate := by
    apply List.filter_congr
    intro id _
    rw [Bool.eq_iff_iff, List.isPrefixOf_iff_prefix, List.isPrefixOf_iff_prefix,
      ← encode_placeholder, Text.encode_prefix_iff]
  rw [idAt, hmatch]

theorem cutAt_encode (front back : List Char) :
    cutAt (Text.encode (front ++ back)) (Text.encode front).length =
      .ok (Text.encode front, Text.encode back) := by
  rw [cutAt, if_pos (charBoundary_encode_iff.mpr ⟨front, back, rfl, rfl⟩), Text.encode_append,
    List.take_left, List.drop_left]

/-! ## The first opening -/

theorem findOpening_eq_zero {bytes : List UInt8} (h : openingBytes <+: bytes) :
    findOpening bytes = some 0 := by
  cases bytes with
  | nil => simp [openingBytes] at h
  | cons byte rest => rw [findOpening, if_pos (List.isPrefixOf_iff_prefix.mpr h)]

theorem findOpening_append {front rest : List UInt8}
    (h : ∀ offset < front.length, ¬ openingBytes <+: (front ++ rest).drop offset) :
    findOpening (front ++ rest) = (findOpening rest).map (· + front.length) := by
  induction front with
  | nil => simp
  | cons byte front ih =>
      have hfirst : ¬ openingBytes <+: byte :: (front ++ rest) := h 0 (by simp)
      have hlater := ih fun offset hoffset => h (offset + 1) (by simpa using hoffset)
      rw [List.cons_append, findOpening,
        if_neg (by simpa [List.isPrefixOf_iff_prefix] using hfirst), hlater, Option.map_map]
      rfl

/-- Bytes of an opening stand nowhere but in the place of an opening. -/
theorem exists_append_of_opening_drop {text : List Char} {offset : Nat}
    (h : openingBytes <+: (Text.encode text).drop offset) :
    ∃ front back, text = front ++ back ∧ offset = (Text.encode front).length ∧
      opening <+: back := by
  obtain ⟨more, hmore⟩ := h
  -- The byte of a brace stands within no other character, so a character starts at it.
  have hbyte : (Text.encode text)[offset]? = some 0x7B := by
    have hfirst : ((Text.encode text).drop offset)[0]? = some 0x7B := by
      rw [← hmore]
      rfl
    rwa [List.getElem?_drop] at hfirst
  obtain ⟨hlt, hvalue⟩ := List.getElem?_eq_some_iff.mp hbyte
  have hboundary : CharBoundary (Text.encode text) offset := by
    refine ⟨Nat.le_of_lt hlt, fun _ => ?_⟩
    rw [hvalue]
    decide
  obtain ⟨front, back, rfl, rfl⟩ := charBoundary_encode_iff.mp hboundary
  refine ⟨front, back, rfl, rfl, Text.encode_prefix_iff.mp ⟨more, ?_⟩⟩
  rw [Text.encode_append, List.drop_left] at hmore
  exact hmore

theorem not_opening_within_first {c : Char} {rest : List Char} (h : ¬ opening <+: c :: rest) :
    ∀ offset < (String.utf8EncodeChar c).length,
      ¬ openingBytes <+: (Text.encode (c :: rest)).drop offset := by
  intro offset hoffset hstart
  obtain ⟨front, back, htext, rfl, hback⟩ := exists_append_of_opening_drop hstart
  cases front with
  | nil => exact h (htext ▸ hback)
  | cons d front =>
      obtain ⟨rfl, -⟩ := List.cons.inj htext
      rw [Text.encode_cons, List.length_append] at hoffset
      omega

theorem findOpening_encode (text : List Char) :
    findOpening (Text.encode text) =
      (splitAtOpening text).map fun split => (Text.encode split.1).length := by
  induction text with
  | nil => rfl
  | cons c rest ih =>
      by_cases hopen : opening <+: c :: rest
      · have hsplit := splitAtOpening_of_prefix hopen
        rw [hsplit, findOpening_eq_zero (Text.encode_prefix_iff.mpr hopen)]
        rfl
      · have hshift : findOpening (String.utf8EncodeChar c ++ Text.encode rest) =
            (findOpening (Text.encode rest)).map (· + (String.utf8EncodeChar c).length) :=
          findOpening_append (not_opening_within_first hopen)
        rw [Text.encode_cons, hshift, ih, splitAtOpening_cons hopen, Option.map_map, Option.map_map]
        congr 1
        funext split
        simp [Nat.add_comm]

/-! ## Turns -/

/-- The next turn is made where the bytes have their first opening, with the id found there. -/
theorem exists_turn?_of_findOpening (ids : List FieldId) {text : List Char} {start : Nat}
    (h : findOpening (Text.encode text) = some start) :
    ∃ turn, turn? ids text = some turn ∧ text = turn.before ++ (turn.taken ++ turn.rest) ∧
      start = (Text.encode turn.before).length ∧
      idAt ids (Text.encode (turn.taken ++ turn.rest)) = turn.found := by
  rw [findOpening_encode] at h
  obtain ⟨⟨before, candidate⟩, hsplit, rfl⟩ := Option.map_eq_some_iff.mp h
  obtain ⟨rest, hturn⟩ : ∃ rest, turn? ids text =
      some ⟨before, longestId (matchingIds ids candidate), rest⟩ := by
    rw [turn?, hsplit]
    cases hfound : longestId (matchingIds ids candidate) <;> simp only [hfound] <;> exact ⟨_, rfl⟩
  have htext := turn?_append hturn
  rw [List.append_assoc] at htext
  have hcandidate := List.append_cancel_left (htext.trans (splitAtOpening_eq_some hsplit).1.symm)
  refine ⟨_, hturn, htext.symm, rfl, ?_⟩
  rw [hcandidate, idAt_encode]

/-- A turn over the bytes of a text is the turn over its characters. -/
theorem byteTurn?_encode (ids : List FieldId) (text : List Char) :
    byteTurn? ids (Text.encode text) = .ok ((turn? ids text).map Turn.encode) := by
  rw [byteTurn?]
  cases hfind : findOpening (Text.encode text) with
  | none =>
      rw [findOpening_encode, Option.map_eq_none_iff] at hfind
      rw [turn?, hfind]
      rfl
  | some start =>
      obtain ⟨turn, hturn, htext, rfl, hid⟩ := exists_turn?_of_findOpening ids hfind
      have hcut := cutAt_encode turn.before (turn.taken ++ turn.rest)
      have htake := cutAt_encode turn.taken turn.rest
      rw [← htext] at hcut
      rw [← turn.takenSize_found] at htake
      rw [hturn]
      simp only [Option.map_some, hcut, bind, Except.bind, hid, htake]
      rfl

/-- A turn over bytes loses none of them and leaves fewer, and these make up a text again. -/
structure ByteTurn.Advances (turn : ByteTurn) (bytes : List UInt8) : Prop where
  append_eq : turn.before ++ turn.taken ++ turn.rest = bytes
  length_lt : turn.rest.length < bytes.length
  text : ∃ left, turn.rest = Text.encode left

theorem Turn.encode_advances {ids : List FieldId} {text : List Char} {turn : Turn}
    (h : turn? ids text = some turn) : turn.encode.Advances (Text.encode text) := by
  have happend : turn.encode.before ++ turn.encode.taken ++ turn.encode.rest =
      Text.encode text := by
    rw [taken_encode, ← turn?_append h, Text.encode_append, Text.encode_append]
    rfl
  refine ⟨happend, ?_, turn.rest, rfl⟩
  have hpos : 0 < turn.encode.taken.length := by
    rw [taken_encode, ← takenSize_found]
    cases turn.found with
    | none => exact Nat.one_pos
    | some id => simp [takenSize, openingBytes, closingBytes]
  have hlength := congrArg List.length happend
  simp only [List.length_append] at hlength
  omega

/-- Wherever the turn at an opening cuts there is a boundary, and the turn advances. -/
structure SafeTurn (ids : List FieldId) (bytes : List UInt8) (start : Nat) : Prop where
  opening : CharBoundary bytes start
  taken : CharBoundary (bytes.drop start) (takenSize (idAt ids (bytes.drop start)))
  next : ∃ turn, byteTurn? ids bytes = .ok (some turn) ∧ turn.Advances bytes

theorem safeTurn_encode {ids : List FieldId} {text : List Char} {start : Nat}
    (h : findOpening (Text.encode text) = some start) : SafeTurn ids (Text.encode text) start := by
  obtain ⟨turn, hturn, htext, rfl, hid⟩ := exists_turn?_of_findOpening ids h
  have hcandidate : (Text.encode text).drop (Text.encode turn.before).length =
      Text.encode (turn.taken ++ turn.rest) := by
    rw [htext, Text.encode_append, List.drop_left]
  constructor
  · exact charBoundary_encode_iff.mpr ⟨turn.before, _, htext, rfl⟩
  · rw [hcandidate, hid, turn.takenSize_found]
    exact charBoundary_encode_iff.mpr ⟨turn.taken, turn.rest, rfl, rfl⟩
  · refine ⟨turn.encode, ?_, Turn.encode_advances hturn⟩
    rw [byteTurn?_encode, hturn]
    rfl

/-! ## The scan -/

/-- Between turns the bytes gone past and the bytes left make up all bytes. As every turn goes
past some bytes there are no more turns than bytes. -/
structure ScanState (bytes : List UInt8) (turns : List ByteTurn) (rest : List UInt8) : Prop where
  append_eq : turns.flatMap (fun turn => turn.before ++ turn.taken) ++ rest = bytes
  length_le : turns.length + rest.length ≤ bytes.length
  text : ∃ left, rest = Text.encode left

theorem ScansTo.state {ids : List FieldId} {text : List Char} {turns : List ByteTurn}
    {rest : List UInt8} (h : ScansTo ids (Text.encode text) turns rest) :
    ScanState (Text.encode text) turns rest := by
  induction h with
  | start => exact ⟨rfl, by simp, text, rfl⟩
  | @turn turns rest turn _ hturn ih =>
      obtain ⟨left, rfl⟩ := ih.text
      rw [byteTurn?_encode] at hturn
      obtain ⟨charTurn, hcharTurn, rfl⟩ := Option.map_eq_some_iff.mp (Except.ok.inj hturn)
      have hadvances := Turn.encode_advances hcharTurn
      refine ⟨?_, ?_, hadvances.text⟩
      · rw [← ih.append_eq, ← hadvances.append_eq]
        simp
      · have hlength := ih.length_le
        have hlt := hadvances.length_lt
        rw [List.length_append, List.length_singleton]
        omega

/-- With the bytes of a text before it the scan makes the turns over the characters and ends. -/
theorem scansTo_scan (ids : List FieldId) (bytes : List UInt8) (text : List Char) :
    ∀ turns, ScansTo ids bytes turns (Text.encode text) →
      ScansTo ids bytes (turns ++ (scan ids text).turns.map Turn.encode)
          (Text.encode (scan ids text).tail) ∧
        byteTurn? ids (Text.encode (scan ids text).tail) = .ok none := by
  fun_induction scan ids text with
  | case1 text hnone =>
      intro turns h
      refine ⟨by simpa using h, ?_⟩
      rw [byteTurn?_encode, hnone]
      rfl
  | case2 text turn hturn _ more ih =>
      intro turns h
      have hnext : byteTurn? ids (Text.encode text) = .ok (some turn.encode) := by
        rw [byteTurn?_encode, hturn]
        rfl
      simpa using ih _ (h.turn hnext)

/-! ## Promotion -/

theorem Scan.encode_resolve (key : FieldId → String) (scan : Scan) :
    Text.encode (scan.resolve key) =
      (scan.turns.map Turn.encode).flatMap (fun turn => turn.before ++ turn.written key) ++
        Text.encode scan.tail := by
  simp only [resolve, Text.encode_append, Text.encode_flatMap, List.flatMap_map,
    Turn.written_encode]
  rfl

/-- A template is promoted in its bytes without a cut within a character or behind the end. Turn
by turn the bytes gone past and those left make up the template, and fewer are left, so the scan
comes to an end; what it has written then is the resolved template. -/
theorem promote_in_bytes (ids : List FieldId) (key : FieldId → String) (template : String) :
    (∀ turns rest, ScansTo ids (utf8Bytes template) turns rest →
      ScanState (utf8Bytes template) turns rest ∧
      ∀ start, findOpening rest = some start → SafeTurn ids rest start) ∧
    ∃ turns rest, ScansTo ids (utf8Bytes template) turns rest ∧
      byteTurn? ids rest = .ok none ∧
      utf8Bytes (promote ids key template).text =
        turns.flatMap (fun turn => turn.before ++ turn.written key) ++ rest ∧
      (promote ids key template).promotions =
        turns.filterMap fun turn => turn.found.map fun id => ⟨id, key id⟩ := by
  rw [← encode_toList, ← encode_toList]
  constructor
  · intro turns rest hscans
    have hstate := hscans.state
    obtain ⟨left, rfl⟩ := hstate.text
    exact ⟨hstate, fun start hstart => safeTurn_encode hstart⟩
  · obtain ⟨hscans, hend⟩ := scansTo_scan ids _ template.toList [] .start
    refine ⟨_, _, hscans, hend, ?_, ?_⟩
    · rw [promote, String.toList_ofList, Scan.encode_resolve, List.nil_append]
    · rw [promote, List.nil_append, List.filterMap_map]
      rfl

/-- Ids of which one has no character, one has two bytes and one ends with a closing brace. -/
def accentedIds : List FieldId :=
  [⟨""⟩, ⟨"é"⟩, ⟨"é\x7d"⟩]

/-- A placeholder behind a further brace, between characters of two bytes. -/
def accentedTemplate : String :=
  "é\x7b{{é}}ü"

theorem promote_in_bytes_accented :
    ScansTo accentedIds (utf8Bytes accentedTemplate) [⟨[0xC3, 0xA9], none, utf8Bytes "{{é}}ü"⟩]
      (utf8Bytes "{{é}}ü") ∧
    findOpening (utf8Bytes "{{é}}ü") = some 0 ∧ idAt accentedIds (utf8Bytes "{{é}}ü") = some ⟨"é"⟩ ∧
    CharBoundary (utf8Bytes "{{é}}ü") 6 ∧ ¬ CharBoundary (utf8Bytes "{{é}}ü") 7 ∧
    (promote accentedIds (fun id => id.text ++ "/ü") accentedTemplate).promotions =
      [⟨⟨"é"⟩, "é/ü"⟩] := by
  have hscans : ScansTo accentedIds (utf8Bytes accentedTemplate)
      [⟨[0xC3, 0xA9], none, utf8Bytes "{{é}}ü"⟩] (utf8Bytes "{{é}}ü") :=
    ScansTo.start.turn (by decide +kernel)
  have hfound : findOpening (utf8Bytes "{{é}}ü") = some 0 := by decide +kernel
  have hid : idAt accentedIds (utf8Bytes "{{é}}ü") = some ⟨"é"⟩ := by decide +kernel
  have hsafe := ((promote_in_bytes accentedIds (fun id => id.text ++ "/ü") accentedTemplate).1
    _ _ hscans).2 0 hfound
  have htaken := hsafe.taken
  rw [List.drop_zero, hid] at htaken
  exact ⟨hscans, hfound, hid, htaken, by decide +kernel, by decide +kernel⟩

end DeviceConfig
