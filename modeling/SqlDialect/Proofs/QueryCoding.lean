import Mathlib.Data.List.Nodup
import SqlDialect.Dsn

/-!
# Coded queries

What a query writes is read again.  UTF-8 bytes are read as the characters that they encode
(`Utf8.decodeReplacing_encode`), percent coding gives them back (`Percent.decode_encode`), and so
does the whole query (`Dsn.readQuery_writeQuery`) if it is one that could have been read: its
settings have values and different names (`Dsn.wellFormedQuery_readQuery`).
-/

namespace SqlDialect

namespace Text

/-! ### UTF-8 -/

namespace Utf8

theorem toNat_lt (c : Char) : c.toNat < 0xD800 ∨ (0xDFFF < c.toNat ∧ c.toNat < 0x110000) :=
  c.valid

theorem toNat_ofNat {n : Nat} (h : n < 256) : (UInt8.ofNat n).toNat = n :=
  UInt8.toNat_ofNat_of_lt' h

/-- A byte in range goes into the payload. -/
theorem continuation_cons {low high n : Nat} (hlow : low ≤ n) (hhigh : n ≤ high) (hn : n < 256)
    (payload follow : Nat) (rest : List UInt8) :
    continuation payload (follow + 1) low high (UInt8.ofNat n :: rest) =
      continuation (payload * 0x40 + (n - 0x80)) follow 0x80 0xBF rest := by
  rw [continuation, toNat_ofNat hn, if_pos (by simp [hlow, hhigh])]

theorem lead?_ofNat {n : Nat} (h : n < 256) :
    lead? (UInt8.ofNat n) =
      if n < 0x80 then some ⟨n, 0, 0, 0⟩
      else if n < 0xC2 then none
      else if n < 0xE0 then some ⟨n - 0xC0, 1, 0x80, 0xBF⟩
      else if n < 0xF0 then
        some ⟨n - 0xE0, 2, if n = 0xE0 then 0xA0 else 0x80, if n = 0xED then 0x9F else 0xBF⟩
      else if n < 0xF5 then
        some ⟨n - 0xF0, 3, if n = 0xF0 then 0x90 else 0x80, if n = 0xF4 then 0x8F else 0xBF⟩
      else none := by
  rw [lead?, toNat_ofNat h]

/-- A first byte with what follows it. -/
theorem decodeLossy_cons {b : UInt8} {payload follow low high : Nat}
    (h : lead? b = some ⟨payload, follow, low, high⟩) {rest more : List UInt8} {c : Char}
    (hc : continuation payload follow low high rest = (some c.toNat, more)) :
    decodeLossy (b :: rest) = some c :: decodeLossy more := by
  rw [decodeLossy, h]
  simp only [hc, Option.map_some, Char.ofNat_toNat]

/-- The bytes of a character are read as the character, whatever follows them. -/
theorem decodeLossy_encodeChar (c : Char) (rest : List UInt8) :
    decodeLossy (encodeChar c ++ rest) = some c :: decodeLossy rest := by
  have hvalid := toNat_lt c
  unfold encodeChar
  generalize hn : c.toNat = n at hvalid
  dsimp only
  split
  · have hlead : lead? (UInt8.ofNat n) = some ⟨n, 0, 0, 0⟩ := by
      rw [lead?_ofNat (by omega), if_pos (by omega)]
    exact decodeLossy_cons hlead (by rw [hn]; rfl)
  · split
    · have hlead : lead? (UInt8.ofNat (0xC0 + n / 0x40)) = some ⟨n / 0x40, 1, 0x80, 0xBF⟩ := by
        rw [lead?_ofNat (by omega), if_neg (by omega), if_neg (by omega), if_pos (by omega),
          Nat.add_sub_cancel_left]
      refine decodeLossy_cons hlead ?_
      show continuation (n / 0x40) 1 0x80 0xBF (UInt8.ofNat (0x80 + n % 0x40) :: rest) = _
      rw [continuation_cons (by omega) (by omega) (by omega), hn]
      exact congrArg (some · , rest) (by omega)
    · split
      · -- the second byte tells overlong forms and surrogates, which are no characters
        have hlead : lead? (UInt8.ofNat (0xE0 + n / 0x1000)) =
            some ⟨n / 0x1000, 2, if 0xE0 + n / 0x1000 = 0xE0 then 0xA0 else 0x80,
              if 0xE0 + n / 0x1000 = 0xED then 0x9F else 0xBF⟩ := by
          rw [lead?_ofNat (by omega), if_neg (by omega), if_neg (by omega), if_neg (by omega),
            if_pos (by omega), Nat.add_sub_cancel_left]
        refine decodeLossy_cons hlead ?_
        show continuation (n / 0x1000) 2 _ _ (UInt8.ofNat (0x80 + n / 0x40 % 0x40) ::
          UInt8.ofNat (0x80 + n % 0x40) :: rest) = _
        rw [continuation_cons (by split <;> omega) (by split <;> omega) (by omega),
          continuation_cons (by omega) (by omega) (by omega), hn]
        exact congrArg (some · , rest) (by omega)
      · have hlead : lead? (UInt8.ofNat (0xF0 + n / 0x40000)) =
            some ⟨n / 0x40000, 3, if 0xF0 + n / 0x40000 = 0xF0 then 0x90 else 0x80,
              if 0xF0 + n / 0x40000 = 0xF4 then 0x8F else 0xBF⟩ := by
          rw [lead?_ofNat (by omega), if_neg (by omega), if_neg (by omega), if_neg (by omega),
            if_neg (by omega), if_pos (by omega), Nat.add_sub_cancel_left]
        refine decodeLossy_cons hlead ?_
        show continuation (n / 0x40000) 3 _ _ (UInt8.ofNat (0x80 + n / 0x1000 % 0x40) ::
          UInt8.ofNat (0x80 + n / 0x40 % 0x40) :: UInt8.ofNat (0x80 + n % 0x40) :: rest) = _
        rw [continuation_cons (by split <;> omega) (by split <;> omega) (by omega),
          continuation_cons (by omega) (by omega) (by omega),
          continuation_cons (by omega) (by omega) (by omega), hn]
        exact congrArg (some · , rest) (by omega)

/-- The bytes of a text are read as the text, whatever follows them. -/
theorem decodeLossy_encode_append (s : List Char) (rest : List UInt8) :
    decodeLossy (encode s ++ rest) = s.map some ++ decodeLossy rest := by
  induction s with
  | nil => rfl
  | cons c s ih =>
    rw [encode, List.flatMap_cons, List.append_assoc, decodeLossy_encodeChar, ← encode, ih]
    rfl

theorem decodeLossy_encode (s : List Char) : decodeLossy (encode s) = s.map some := by
  have h := decodeLossy_encode_append s []
  rwa [List.append_nil, decodeLossy, List.append_nil] at h

/-- The bytes of a text are read as the text. -/
theorem decodeReplacing_encode (s : List Char) : decodeReplacing (encode s) = s := by
  rw [decodeReplacing, decodeLossy_encode, List.map_map]
  exact List.map_id s

/-- No character of a text is left out when its bytes are read. -/
theorem decodeIgnoring_encode (s : List Char) : decodeIgnoring (encode s) = s := by
  rw [decodeIgnoring, decodeLossy_encode, List.filterMap_map]
  exact List.filterMap_some

end Utf8

/-! ### Percent coding -/

namespace Percent

theorem hexValue?_hexDigit {d : Nat} (h : d < 16) : hexValue? (hexDigit true d) = some d := by
  have hall : ∀ d : Fin 16, hexValue? (hexDigit true d) = some d.val := by decide
  exact hall ⟨d, h⟩

theorem plusToBlank_hexDigit {d : Nat} (h : d < 16) :
    plusToBlank (hexDigit true d) = hexDigit true d := by
  have hall : ∀ d : Fin 16, plusToBlank (hexDigit true d) = hexDigit true d := by decide
  exact hall ⟨d, h⟩

theorem bytes_cons_of_ne {c : Char} (h : c ≠ '%') (rest : List Char) :
    bytes (c :: rest) = Utf8.encodeChar c ++ bytes rest := by
  rw [bytes]
  intro high low rest hc
  exact absurd hc h

/-- A coded byte is read as the byte. -/
theorem bytes_encodeByte (b : UInt8) (rest : List Char) :
    bytes ((encodeByte b).map plusToBlank ++ rest) = b :: bytes rest := by
  have hlt : b.toNat < 256 := b.toNat_lt
  have hdigits : (encodeByte b).map plusToBlank ++ rest =
      '%' :: hexDigit true (b.toNat / 16 % 16) :: hexDigit true (b.toNat % 16) :: rest := by
    simp only [encodeByte, hexDigits, List.nil_append, List.cons_append, List.map_cons,
      List.map_nil, plusToBlank_hexDigit (Nat.mod_lt _ (by decide : 0 < 16))]
    rfl
  have hbyte : byte? (hexDigit true (b.toNat / 16 % 16)) (hexDigit true (b.toNat % 16)) =
      some b := by
    rw [byte?, hexValue?_hexDigit (by omega), hexValue?_hexDigit (by omega)]
    have hvalue : 16 * (b.toNat / 16 % 16) + b.toNat % 16 = b.toNat := by omega
    simp only [hvalue, UInt8.ofNat_toNat]
  rw [hdigits, bytes, hbyte]

theorem bytes_encodeBytes (bs : List UInt8) (rest : List Char) :
    bytes ((bs.flatMap encodeByte).map plusToBlank ++ rest) = bs ++ bytes rest := by
  induction bs with
  | nil => rfl
  | cons b bs ih =>
    rw [List.flatMap_cons, List.map_append, List.append_assoc, bytes_encodeByte, ih,
      List.cons_append]

theorem ne_of_isUnreserved {c : Char} (h : isUnreserved c = true) : c ≠ '%' ∧ c ≠ '+' := by
  constructor <;> rintro rfl <;> cases h

/-- A coded character stands for the bytes of the character. -/
theorem bytes_encodeChar (c : Char) (rest : List Char) :
    bytes ((encodeChar c).map plusToBlank ++ rest) = Utf8.encodeChar c ++ bytes rest := by
  unfold encodeChar
  split
  · obtain ⟨hpercent, hplus⟩ := ne_of_isUnreserved ‹_›
    rw [List.map_singleton, plusToBlank, if_neg hplus, List.singleton_append,
      bytes_cons_of_ne hpercent]
  · split
    · obtain rfl : c = ' ' := ‹_›
      exact bytes_cons_of_ne (by decide) rest
    · exact bytes_encodeBytes _ rest

/-- **What is coded is read again.** -/
theorem decode_encode (s : List Char) : decode (encode s) = s := by
  have hbytes : bytes ((encode s).map plusToBlank) = Utf8.encode s := by
    induction s with
    | nil => rfl
    | cons c rest ih =>
      rw [encode, List.flatMap_cons, List.map_append, bytes_encodeChar, ← encode, ih, Utf8.encode,
        Utf8.encode, List.flatMap_cons]
  rw [decode, hbytes, Utf8.decodeReplacing_encode]

/-- Characters that code a text. -/
def isCoded (c : Char) : Bool :=
  isUnreserved c || c = '+' || c = '%'

theorem isCoded_of_mem_encode {s : List Char} {c : Char} (h : c ∈ encode s) :
    isCoded c = true := by
  obtain ⟨d, -, hc⟩ := List.mem_flatMap.1 h
  unfold encodeChar at hc
  split at hc
  · rw [List.mem_singleton.1 hc, isCoded, ‹isUnreserved d = true›]
    rfl
  · split at hc
    · rw [List.mem_singleton.1 hc]
      rfl
    · obtain ⟨b, -, hb⟩ := List.mem_flatMap.1 hc
      have hdigit : ∀ d : Fin 16, isCoded (hexDigit true d) = true := by decide
      simp only [encodeByte, hexDigits, List.nil_append, List.singleton_append, List.mem_cons,
        List.not_mem_nil, or_false] at hb
      rcases hb with rfl | rfl | rfl
      · rfl
      · exact hdigit ⟨_, Nat.mod_lt _ (by decide)⟩
      · exact hdigit ⟨_, Nat.mod_lt _ (by decide)⟩

theorem encode_ne_nil {s : List Char} (h : s ≠ []) : encode s ≠ [] := by
  intro hnil
  have hdecode := decode_encode s
  rw [hnil] at hdecode
  exact h (hdecode.symm.trans (decode_encode []))

theorem bytes_ne_nil (c : Char) (rest : List Char) : bytes (c :: rest) ≠ [] := by
  have hchar (c : Char) (more : List UInt8) : Utf8.encodeChar c ++ more ≠ [] := by
    unfold Utf8.encodeChar
    dsimp only
    split
    · exact nofun
    · split
      · exact nofun
      · split <;> exact nofun
  rw [bytes.eq_def]
  split
  · split
    · exact nofun
    · exact hchar _ _
  · exact hchar _ _
  · cases ‹c :: rest = []›

/-- What is read from a text is no empty text. -/
theorem decode_ne_nil (c : Char) (rest : List Char) : decode (c :: rest) ≠ [] := by
  have hlossy {bs : List UInt8} (h : bs ≠ []) : Utf8.decodeReplacing bs ≠ [] := by
    obtain ⟨b, bs, rfl⟩ := List.exists_cons_of_ne_nil h
    rw [Utf8.decodeReplacing, Utf8.decodeLossy]
    split
    · exact List.cons_ne_nil _ _
    · exact List.cons_ne_nil _ _
  exact hlossy (bytes_ne_nil _ _)

end Percent

/-! ### Pieces -/

theorem pieces_of_not_mem {c : Char} {s : List Char} (h : c ∉ s) : pieces c s = [s] := by
  induction s with
  | nil => rfl
  | cons x rest ih =>
    obtain ⟨hx, hrest⟩ := not_or.1 (mt List.mem_cons.2 h)
    rw [pieces, if_neg (Ne.symm hx), ih hrest]

theorem pieces_append_cons {c : Char} {s : List Char} (h : c ∉ s) (t : List Char) :
    pieces c (s ++ c :: t) = s :: pieces c t := by
  induction s with
  | nil => rw [List.nil_append, pieces, if_pos rfl]
  | cons x rest ih =>
    obtain ⟨hx, hrest⟩ := not_or.1 (mt List.mem_cons.2 h)
    rw [List.cons_append, pieces, if_neg (Ne.symm hx), ih hrest]

theorem intercalate_cons_cons (c : Char) (p q : List Char) (rest : List (List Char)) :
    [c].intercalate (p :: q :: rest) = p ++ c :: [c].intercalate (q :: rest) := by
  simp [List.intercalate]

theorem mem_intercalate {c x : Char} {ps : List (List Char)} (h : x ∈ [c].intercalate ps) :
    x = c ∨ ∃ p ∈ ps, x ∈ p := by
  induction ps with
  | nil => cases h
  | cons p rest ih =>
    cases rest with
    | nil => exact .inr ⟨p, List.mem_cons_self, by simpa [List.intercalate] using h⟩
    | cons q rest =>
      rw [intercalate_cons_cons, List.mem_append, List.mem_cons] at h
      rcases h with hp | hc | hrest
      · exact .inr ⟨p, List.mem_cons_self, hp⟩
      · exact .inl hc
      · obtain hc | ⟨r, hr, hx⟩ := ih hrest
        · exact .inl hc
        · exact .inr ⟨r, List.mem_cons_of_mem _ hr, hx⟩

/-- Parts that are put together with a separator between them are the pieces. -/
theorem pieces_intercalate {c : Char} {ps : List (List Char)} (hne : ps ≠ [])
    (h : ∀ p ∈ ps, c ∉ p) : pieces c ([c].intercalate ps) = ps := by
  induction ps with
  | nil => exact absurd rfl hne
  | cons p rest ih =>
    obtain ⟨hp, hrest⟩ := List.forall_mem_cons.1 h
    cases rest with
    | nil => simpa [List.intercalate] using pieces_of_not_mem hp
    | cons q rest =>
      rw [intercalate_cons_cons, pieces_append_cons hp, ih (List.cons_ne_nil _ _) hrest]

end Text

/-! ### Queries -/

namespace Dsn

open Text

/-- A query as it may be read: settings with values and different names. -/
structure WellFormedQuery (settings : List (String × String)) : Prop where
  nodup : (settings.map Prod.fst).Nodup
  values : ∀ s ∈ settings, s.2 ≠ ""

/-- A character of a setting that is written. -/
theorem mem_writeSetting {s : String × String} {c : Char} (h : c ∈ writeSetting s) :
    Percent.isCoded c = true ∨ c = '=' := by
  rw [writeSetting, List.mem_append, List.mem_cons] at h
  rcases h with hname | heq | hvalue
  · exact .inl (Percent.isCoded_of_mem_encode hname)
  · exact .inr heq
  · exact .inl (Percent.isCoded_of_mem_encode hvalue)

/-- A character of a query that is written. -/
theorem mem_writeQuery {settings : List (String × String)} {c : Char}
    (h : c ∈ writeQuery settings) : Percent.isCoded c = true ∨ c = '=' ∨ c = '&' := by
  obtain hc | ⟨p, hp, hc⟩ := mem_intercalate h
  · exact .inr (.inr hc)
  · obtain ⟨s, -, rfl⟩ := List.mem_map.1 hp
    exact (mem_writeSetting hc).imp id .inl

theorem readSetting?_writeSetting {s : String × String} (h : s.2 ≠ "") :
    readSetting? (writeSetting s) = some s := by
  have hname : '=' ∉ Percent.encode s.1.toList := fun hmem =>
    absurd (Percent.isCoded_of_mem_encode hmem) (by decide)
  have hvalue : Percent.encode s.2.toList ≠ [] :=
    Percent.encode_ne_nil fun hnil => h (String.toList_inj.1 (by simpa using hnil))
  obtain ⟨c, rest, hcons⟩ := List.exists_cons_of_ne_nil hvalue
  rw [readSetting?, writeSetting, cut_append hname, hcons]
  dsimp only
  rw [← hcons, Percent.decode_encode, Percent.decode_encode, String.ofList_toList,
    String.ofList_toList]

theorem ne_empty_of_readSetting? {text : List Char} {s : String × String}
    (h : readSetting? text = some s) : s.2 ≠ "" := by
  unfold readSetting? at h
  split at h
  · cases h
    intro hempty
    exact Percent.decode_ne_nil _ _ (by simpa using congrArg String.toList hempty)
  · cases h

theorem foldl_addSetting (acc : List (String × String)) {settings : List (String × String)}
    (h : ((acc ++ settings).map Prod.fst).Nodup) :
    settings.foldl addSetting acc = acc ++ settings := by
  induction settings generalizing acc with
  | nil => exact (List.append_nil acc).symm
  | cons s rest ih =>
    have hnew : (acc.any fun t => t.1 = s.1) = false := by
      rw [List.any_eq_false]
      intro t ht hts
      rw [List.map_append, List.map_cons] at h
      exact (List.nodup_append.1 h).2.2 t.1 (List.mem_map_of_mem ht) s.1 List.mem_cons_self
        (of_decide_eq_true hts)
    have hstep : addSetting acc s = acc ++ [s] := by rw [addSetting, hnew]; rfl
    rw [List.foldl_cons, hstep, ih _ (by simpa using h), List.append_assoc, List.singleton_append]

theorem wellFormedQuery_foldl {acc settings : List (String × String)} (hacc : WellFormedQuery acc)
    (hvalues : ∀ s ∈ settings, s.2 ≠ "") : WellFormedQuery (settings.foldl addSetting acc) := by
  induction settings generalizing acc with
  | nil => exact hacc
  | cons s rest ih =>
    obtain ⟨hs, hrest⟩ := List.forall_mem_cons.1 hvalues
    refine ih ?_ hrest
    unfold addSetting
    split
    · exact hacc
    · rename_i hnew
      refine ⟨?_, List.forall_mem_append.2 ⟨hacc.values, List.forall_mem_singleton.2 hs⟩⟩
      rw [List.map_append, List.nodup_append]
      refine ⟨hacc.nodup, List.nodup_singleton _, fun name hname other hother heq => hnew ?_⟩
      obtain ⟨t, ht, rfl⟩ := List.mem_map.1 hname
      rw [List.any_eq_true]
      exact ⟨t, ht, decide_eq_true (heq.trans (List.mem_singleton.1 hother))⟩

/-- Whatever is read as a query is one that can be written. -/
theorem wellFormedQuery_readQuery (s : List Char) : WellFormedQuery (readQuery s) := by
  refine wellFormedQuery_foldl ⟨List.nodup_nil, nofun⟩ fun t ht => ?_
  obtain ⟨text, -, htext⟩ := List.mem_filterMap.1 ht
  exact ne_empty_of_readSetting? htext

/-- **A query that is written is read again.** -/
theorem readQuery_writeQuery {settings : List (String × String)} (h : WellFormedQuery settings) :
    readQuery (writeQuery settings) = settings := by
  by_cases hempty : settings = []
  · rw [hempty]
    rfl
  · have hpieces : pieces '&' (writeQuery settings) = settings.map writeSetting := by
      refine pieces_intercalate (by simpa using hempty) fun p hp hmem => ?_
      obtain ⟨s, -, rfl⟩ := List.mem_map.1 hp
      exact absurd (mem_writeSetting hmem) (by decide)
    have hsettings : (settings.map writeSetting).filterMap readSetting? = settings := by
      rw [List.filterMap_map]
      exact (List.filterMap_congr fun s hs => readSetting?_writeSetting (h.values s hs)).trans
        List.filterMap_some
    rw [readQuery, hpieces, hsettings, foldl_addSetting [] (by simpa using h.nodup),
      List.nil_append]

end Dsn

end SqlDialect
