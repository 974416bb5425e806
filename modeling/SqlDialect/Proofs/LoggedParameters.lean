import SqlDialect.Proofs.FileConnection
import SqlDialect.Proofs.Placeholders
import SqlDialect.Proofs.QueryCoding

/-!
# No secret among the logged parameters

The record of a statement shows its parameters as they are or as `***`, and it shows `***` for every
text and every byte string that holds a sensitive word (`logged_parameters`).

In a text the word may be written in any letter case: lower case takes an ASCII character to one
character wherever it stands, so that the letters of the word stay side by side
(`infix_lowerAfter`).  In bytes the word may have anything around it: an ASCII byte begins a
character of its own, and no ill-formed sequence before it takes it along
(`decodeLossy_append_ascii`), because what continues a character lies above the ASCII bytes.
-/

namespace SqlDialect

namespace Text

/-! ### ASCII characters in lower case -/

theorem lowerChar_of_ascii {c : Char} (h : c.toNat < 0x80) : lowerChar c = [c.toLower] := by
  have hall : ∀ n : Fin 128, lowerChar (Char.ofNat n) = [(Char.ofNat n).toLower] := by decide
  have hc := hall ⟨c.toNat, h⟩
  rwa [Char.ofNat_toNat] at hc

/-- A part of ASCII characters is lowered one by one, whatever stands around it. -/
theorem lowerAfter_append_of_ascii {w : List Char} (hw : ∀ c ∈ w, c.toNat < 0x80)
    (before rest : List Char) :
    lowerAfter before (w ++ rest) =
      w.map Char.toLower ++ lowerAfter (w.reverse ++ before) rest := by
  induction w generalizing before with
  | nil => rfl
  | cons c w ih =>
    obtain ⟨hc, hw⟩ := List.forall_mem_cons.1 hw
    have hsigma : c.toNat ≠ 0x3A3 := by omega
    rw [List.cons_append, lowerAfter, if_neg hsigma, lowerChar_of_ascii hc, ih hw,
      List.reverse_cons, List.append_assoc]
    rfl

/-- A part of ASCII characters is still there in lower case. -/
theorem infix_lowerAfter {w s : List Char} (hw : ∀ c ∈ w, c.toNat < 0x80) (h : w <:+: s)
    (before : List Char) : w.map Char.toLower <:+: lowerAfter before s := by
  obtain ⟨front, back, rfl⟩ := h
  induction front generalizing before with
  | nil =>
    rw [List.nil_append, lowerAfter_append_of_ascii hw]
    exact (List.prefix_append _ _).isInfix
  | cons c front ih =>
    -- what a character in front becomes stays in front
    rw [List.cons_append, List.cons_append, lowerAfter]
    exact (ih (c :: before)).trans (List.suffix_append _ _).isInfix

namespace Utf8

/-! ### ASCII bytes among others -/

/-- What may continue a character lies above the ASCII bytes. -/
theorem lead?_low {b : UInt8} {l : Lead} (h : lead? b = some l) : 0x80 ≤ l.low ∨ l.follow = 0 := by
  unfold lead? at h
  dsimp only at h
  split_ifs at h <;> obtain rfl := Option.some.inj h <;> simp

/-- Reading on in a character leaves an ASCII byte and what follows it. -/
theorem continuation_append (payload high : Nat) {follow low : Nat}
    (hlow : 0x80 ≤ low ∨ follow = 0) {b : UInt8} (hb : b.toNat < 0x80) (s rest : List UInt8) :
    ∃ s', s'.length ≤ s.length ∧
      (continuation payload follow low high (s ++ b :: rest)).2 = s' ++ b :: rest := by
  induction s generalizing payload high follow low with
  | nil =>
    cases follow with
    | zero => exact ⟨[], le_rfl, rfl⟩
    | succ follow =>
      have hout : ¬ (low ≤ b.toNat && b.toNat ≤ high) = true := by
        rw [Bool.and_eq_true, decide_eq_true_iff]
        omega
      rw [List.nil_append, continuation, if_neg hout]
      exact ⟨[], le_rfl, rfl⟩
  | cons a s ih =>
    cases follow with
    | zero => exact ⟨a :: s, le_rfl, rfl⟩
    | succ follow =>
      rw [List.cons_append, continuation]
      split
      · obtain ⟨s', hlength, hrest⟩ := ih _ _ (.inl le_rfl)
        exact ⟨s', hlength.trans (Nat.le_succ _), hrest⟩
      · exact ⟨a :: s, le_rfl, rfl⟩

/-- Whatever bytes stand before it, an ASCII byte begins a character. -/
theorem decodeLossy_append_ascii {b : UInt8} (hb : b.toNat < 0x80) (s rest : List UInt8) :
    ∃ d, decodeLossy (s ++ b :: rest) = d ++ decodeLossy (b :: rest) := by
  -- reading a character takes off one byte of `s` or more, never `b`
  induction hn : s.length using Nat.strong_induction_on generalizing s with
  | _ n ih =>
    cases s with
    | nil => exact ⟨[], rfl⟩
    | cons a s =>
      rw [List.length_cons] at hn
      rw [List.cons_append, decodeLossy]
      cases hlead : lead? a with
      | none =>
        obtain ⟨d, hd⟩ := ih s.length (by omega) s rfl
        exact ⟨none :: d, congrArg (none :: ·) hd⟩
      | some l =>
        obtain ⟨s', hlength, hrest⟩ :=
          continuation_append l.payload l.high (lead?_low hlead) hb s rest
        obtain ⟨d, hd⟩ := ih s'.length (by omega) s' rfl
        dsimp only
        rw [hrest, hd]
        exact ⟨_ :: d, rfl⟩

theorem encodeChar_of_ascii {c : Char} (h : c.toNat < 0x80) :
    encodeChar c = [UInt8.ofNat c.toNat] := if_pos h

/-- The characters of ASCII bytes are read wherever the bytes stand. -/
theorem infix_decodeIgnoring {w : List Char} (hw : ∀ c ∈ w, c.toNat < 0x80) (hne : w ≠ [])
    {data : List UInt8} (h : encode w <:+: data) : w <:+: decodeIgnoring data := by
  obtain ⟨front, back, rfl⟩ := h
  obtain ⟨c, w, rfl⟩ := List.exists_cons_of_ne_nil hne
  have hc : c.toNat < 0x80 := hw c List.mem_cons_self
  have hbytes : encode (c :: w) ++ back = UInt8.ofNat c.toNat :: (encode w ++ back) := by
    rw [encode, List.flatMap_cons, encodeChar_of_ascii hc]
    rfl
  have hbyte : (UInt8.ofNat c.toNat).toNat < 0x80 := by
    rwa [toNat_ofNat (by omega)]
  obtain ⟨d, hd⟩ := decodeLossy_append_ascii hbyte front (encode w ++ back)
  rw [← hbytes, decodeLossy_encode_append] at hd
  rw [List.append_assoc, decodeIgnoring, hd, List.filterMap_append, List.filterMap_append,
    List.filterMap_map]
  have hid : (c :: w).filterMap (id ∘ some) = c :: w := List.filterMap_some
  rw [hid]
  exact ⟨_, _, List.append_assoc _ _ _⟩

end Utf8

end Text

/-! ### Sensitive words -/

namespace Redaction

open Text

/-- A way to write a sensitive word: its letters in any case. -/
def IsSpelling (s : List Char) : Prop :=
  ∃ word ∈ sensitiveWords, s.map Char.toLower = word.toList

/-- A text or bytes with a spelling of a sensitive word anywhere in it. -/
inductive HoldsWord : Value → Prop
  | text {s : String} {w : List Char} (spelling : IsSpelling w) (within : w <:+: s.toList) :
    HoldsWord (.text s)
  | bytes {kind : ByteKind} {data : List UInt8} {w : List Char} (spelling : IsSpelling w)
    (within : Utf8.encode w <:+: data) : HoldsWord (.bytes kind data)

/-- A character that ASCII lower case takes to an ASCII character is one. -/
theorem ascii_of_toLower {c : Char} (h : c.toLower.toNat < 0x80) : c.toNat < 0x80 := by
  by_contra hc
  have hupper : ¬ (c.val ≥ 'A'.val ∧ c.val ≤ 'Z'.val) := by
    rintro ⟨-, hle⟩
    exact hc (Nat.lt_of_le_of_lt (UInt32.le_iff_toNat_le.1 hle) (by decide))
  have hsame : c.toLower = c := dif_neg hupper
  exact hc (hsame ▸ h)

theorem IsSpelling.ascii {s : List Char} (h : IsSpelling s) : ∀ c ∈ s, c.toNat < 0x80 := by
  have hwords : ∀ word ∈ sensitiveWords, (word.toList.all fun c => c.toNat < 0x80) = true := by
    decide
  obtain ⟨word, hword, hs⟩ := h
  intro c hc
  have hlower : c.toLower ∈ word.toList := hs ▸ List.mem_map_of_mem hc
  exact ascii_of_toLower (of_decide_eq_true (List.all_eq_true.1 (hwords word hword) _ hlower))

theorem IsSpelling.ne_nil {s : List Char} (h : IsSpelling s) : s ≠ [] := by
  have hwords : ∀ word ∈ sensitiveWords, word.toList ≠ [] := by decide
  obtain ⟨word, hword, hs⟩ := h
  rintro rfl
  exact hwords word hword hs.symm

/-- A text that holds a sensitive word looks like a secret. -/
theorem isSensitive_of_infix {w s : List Char} (hw : IsSpelling w) (h : w <:+: s) :
    isSensitive s = true := by
  obtain ⟨word, hword, hlower⟩ := id hw
  refine List.any_eq_true.2 ⟨word, hword, ?_⟩
  rw [contains_iff, ← hlower]
  exact infix_lowerAfter hw.ascii h []

theorem isSecret_of_holdsWord {v : Value} (h : HoldsWord v) : isSecret v = true := by
  cases h with
  | text spelling within => exact isSensitive_of_infix spelling within
  | bytes spelling within =>
    have hread := Utf8.infix_decodeIgnoring spelling.ascii spelling.ne_nil within
    exact isSensitive_of_infix spelling hread

theorem redact_of_isSecret {v : Value} (h : isSecret v = true) : redact v = mask := if_pos h

theorem redact_eq_or (v : Value) : redact v = v ∨ redact v = mask := by
  unfold redact
  split
  · exact .inr rfl
  · exact .inl rfl

/-- A text is a secret exactly if its bytes are. -/
theorem isSecret_encode (s : String) (kind : ByteKind) :
    isSecret (.bytes kind (Utf8.encode s.toList)) = isSecret (.text s) :=
  congrArg isSensitive (Utf8.decodeIgnoring_encode s.toList)

/-- A text and its bytes are both kept or both masked. -/
theorem redact_encode (s : String) (kind : ByteKind) :
    (redact (.text s) = .text s ∧
      redact (.bytes kind (Utf8.encode s.toList)) = .bytes kind (Utf8.encode s.toList)) ∨
    (redact (.text s) = mask ∧ redact (.bytes kind (Utf8.encode s.toList)) = mask) := by
  cases h : isSecret (.text s) with
  | true => exact .inr ⟨if_pos h, if_pos ((isSecret_encode s kind).trans h)⟩
  | false =>
    have hkept {v : Value} (hv : isSecret v = false) : redact v = v :=
      if_neg (by rw [hv]; exact Bool.false_ne_true)
    exact .inl ⟨hkept h, hkept ((isSecret_encode s kind).trans h)⟩

end Redaction

/-! ### The record of a statement -/

/-- What the timed calls of a run were logged with. -/
def Run.timings {α : Type} (r : Run α) : List Timing :=
  r.log.filterMap LogRecord.timing

variable {script : DriverScript} {s : Session} {id : Nat} {sql : String} {params : List Value}

namespace Postgres

/-- Opening a connection times nothing. -/
theorem connect_timings (config : ConnectionConfig) (script : DriverScript) (s : Session) :
    (connect config script s).timings = [] := by
  have hrecord {r : Option LogRecord} (h : connectingRecord config = .ok r) :
      r.toList.filterMap LogRecord.timing = [] := by
    unfold connectingRecord at h
    cases hlabel : config.label.mapError AdapterError.settings with
    | error e =>
      rw [hlabel] at h
      cases h
    | ok label =>
      rw [hlabel] at h
      cases h
      cases config.autocommit.toText? with
      | none => rfl
      | some flag => rfl
  rw [connect_eq]
  split
  · split
    · rfl
    · rfl
    · rename_i hr _
      exact hrecord hr
    · rename_i hr _
      exact hrecord hr
  · rfl

/-- Asking for the connection times nothing. -/
theorem connection_timings (script : DriverScript) (s : Session) :
    (connection script s).timings = [] := by
  cases hlink : s.adapter.link? with
  | none =>
    rw [connection_of_unlinked hlink]
    rfl
  | some link =>
    cases lost : s.hasLost link.connection with
    | false =>
      rw [connection_of_kept hlink lost]
      rfl
    | true =>
      rw [connection_of_lost hlink lost]
      exact connect_timings link.config script s

/-- A statement that reaches the driver is timed once. -/
theorem execute_timings
    (h : DriverCall.execute id sql params ∈ (execute sql params script s).received) :
    (execute sql params script s).timings =
      [⟨.text sql, .list (Redaction.redactAll params), script.clock.elapsed⟩] := by
  have hasked : DriverCall.execute id sql params ∉ (connection script s).received := by
    intro hmem
    have hnone := connection_statements script s
    rw [Run.statements, List.filter_eq_nil_iff] at hnone
    exact hnone _ hmem rfl
  unfold execute at h ⊢
  cases hid : (connection script s).result with
  | error e =>
    rw [Action.bind_of_error _ hid] at h
    exact absurd h hasked
  | ok id' =>
    rw [Action.bind_of_ok _ hid] at h ⊢
    rw [Run.timings, List.filterMap_append]
    replace h := (List.mem_append.1 h).resolve_left hasked
    rw [runOn_eq (c := fun id => .execute id sql params)] at h ⊢
    have hbefore := connection_timings script s
    rw [Run.timings] at hbefore
    rw [hbefore, List.nil_append]
    -- only a statement with its cursor and the right parameters gets that far
    split at h
    · cases List.mem_singleton.1 h
    · cases List.mem_singleton.1 h
    · rfl

end Postgres

namespace Sqlite

/-- A statement that reaches the driver is timed once. -/
theorem execute_timings
    (h : DriverCall.execute id sql params ∈ (execute sql params script s).received) :
    (execute sql params script s).timings =
      [⟨.text sql, .list (Redaction.redactAll params), script.clock.elapsed⟩] := by
  unfold execute at h ⊢
  cases hlink : s.adapter.link? with
  | none =>
    have hconnection := connection_of_unlinked hlink script
    rw [Action.bind_of_error _ (congrArg Run.result hconnection), hconnection] at h
    cases h
  | some link =>
    have hconnection := connection_of_linked hlink script
    rw [Action.bind_of_ok _ (congrArg Run.result hconnection), hconnection, runOn_eq] at h ⊢
    split at h
    · cases List.mem_singleton.1 h
    · rfl

end Sqlite

/-- **No secret word survives among the logged parameters.**  A statement that reaches the driver,
on either adapter, leaves one timed record.  It shows as many parameters as were given, each of them
as it is or as `***`, and as `***` every text that has a sensitive word in any letter case somewhere
in it, and every byte string that has the bytes of one, whatever stands around them.  A text and its
UTF-8 bytes are both kept or both masked. -/
theorem logged_parameters :
    (∀ (script : DriverScript) (s : Session) (sql : String) (params : List Value),
      (∃ id, DriverCall.execute id sql params ∈ (Adapter.execute sql params script s).received) →
      ∃ logged, (Adapter.execute sql params script s).timings =
          [⟨.text sql, .list logged, script.clock.elapsed⟩] ∧
        logged = params.map Redaction.redact ∧ logged.length = params.length ∧
        ∀ (i : Nat) (v : Value), params[i]? = some v →
          (logged[i]? = some v ∨ logged[i]? = some (.text "***")) ∧
          (Redaction.HoldsWord v → logged[i]? = some (.text "***"))) ∧
    ∀ (text : String) (kind : ByteKind),
      let bytes := Value.bytes kind (Text.Utf8.encode text.toList)
      (Redaction.redact (.text text) = .text text ∧ Redaction.redact bytes = bytes) ∨
        (Redaction.redact (.text text) = .text "***" ∧ Redaction.redact bytes = .text "***") := by
  refine ⟨fun script s sql params h => ?_, Redaction.redact_encode⟩
  obtain ⟨id, hid⟩ := h
  have htimings : (Adapter.execute sql params script s).timings =
      [⟨.text sql, .list (Redaction.redactAll params), script.clock.elapsed⟩] := by
    unfold Adapter.execute at hid ⊢
    cases hbackend : s.adapter.backend with
    | sqlite =>
      rw [Adapter.choose_sqlite _ _ hbackend] at hid ⊢
      exact Sqlite.execute_timings hid
    | postgres =>
      rw [Adapter.choose_postgres _ _ hbackend] at hid ⊢
      exact Postgres.execute_timings hid
  refine ⟨_, htimings, rfl, List.length_map _, fun i v hv => ?_⟩
  have hlogged : (Redaction.redactAll params)[i]? = some (Redaction.redact v) := by
    rw [Redaction.redactAll, List.getElem?_map, hv]
    rfl
  rw [hlogged, Option.some.injEq, Option.some.injEq]
  exact ⟨Redaction.redact_eq_or v,
    fun hword => Redaction.redact_of_isSecret (Redaction.isSecret_of_holdsWord hword)⟩

/-- A word in mixed letter case among other bytes, some of them the start of a character that is
cut off by it. -/
theorem logged_parameters_of_broken_bytes :
    let s : Session :=
      { adapter := { backend := .sqlite, link? := some ⟨0, { url := "sqlite:///a.db" }⟩ }
        opened := 1 }
    let data : List UInt8 := [0xF0, 0x9F] ++ Text.Utf8.encode "toKEN".toList ++ [0xC3]
    let params : List Value := [.bytes .byteArray data, .text "my PassWord!", .int 7]
    DriverCall.execute 0 "SELECT 1" params ∈ (Adapter.execute "SELECT 1" params {} s).received ∧
      ∃ logged, (Adapter.execute "SELECT 1" params {} s).timings.map Timing.params =
          [.list logged] ∧
        logged.length = 3 ∧ logged[0]? = some (.text "***") ∧ logged[1]? = some (.text "***") ∧
        (logged[2]? = some (.int 7) ∨ logged[2]? = some (.text "***")) := by
  intro s data params
  have hreached : DriverCall.execute 0 "SELECT 1" params ∈
      (Adapter.execute "SELECT 1" params {} s).received := .tail _ (.head _)
  obtain ⟨logged, htimings, -, hlength, hentries⟩ :=
    logged_parameters.1 {} s "SELECT 1" params ⟨0, hreached⟩
  have hbytes : Redaction.HoldsWord (.bytes .byteArray data) :=
    .bytes (w := "toKEN".toList) ⟨"token", by decide, by decide⟩ ⟨[0xF0, 0x9F], [0xC3], rfl⟩
  have htext : Redaction.HoldsWord (.text "my PassWord!") :=
    .text (w := "PassWord".toList) ⟨"password", by decide, by decide⟩
      ⟨"my ".toList, "!".toList, by decide⟩
  refine ⟨hreached, logged, by rw [htimings]; rfl, hlength, ?_, ?_, ?_⟩
  · exact (hentries 0 _ rfl).2 hbytes
  · exact (hentries 1 _ rfl).2 htext
  · exact (hentries 2 _ rfl).1

end SqlDialect
