import SqlDialect.Proofs.AddressParts
import SqlDialect.Proofs.FileConnection

/-!
# The database that an address opens

The address of a file, `sqlite:///path?query`, is read in two ways.  A configuration takes it apart:
the path ends at the `?`, and the settings behind it are set (`Dsn.read_file`).  The SQLite adapter
opens whatever follows `sqlite:///` (`Sqlite.connect_targets`), so that the query of an address is
part of the name of the file it opens.

`Sqlite.connect_target_of_query` sets the two readings against each other: the configuration with a
query succeeds only if the one without it does, knows the same address but for the query, and opens
another database.  `Sqlite.not_connect_target_without_query` is an address whose settings open
another file.
-/

namespace SqlDialect

/-! ### Databases that the driver opens -/

/-- The database that a call opens. -/
def DriverCall.target? : DriverCall → Option String
  | .connect target _ _ => some target
  | _ => none

/-- The databases that the driver was asked to open during a run. -/
def Run.targets {α : Type} (r : Run α) : List String :=
  r.received.filterMap DriverCall.target?

namespace Sqlite

/-- The driver is asked for the path in the address, whatever comes of it. -/
theorem connect_targets (config : ConnectionConfig) (script : DriverScript) (s : Session) :
    (connect config script s).targets = [databasePath config.url] := by
  rw [connect_eq]
  split <;> rfl

/-- The address of a file. -/
def address (path : String) : String :=
  String.ofList addressStart ++ path

theorem toList_address (path : String) : (address path).toList = addressStart ++ path.toList := by
  rw [address, String.toList_append, String.toList_ofList]

/-- The path in the address of a file is all that follows. -/
theorem databasePath_address (path : String) : databasePath (address path) = path := by
  rw [databasePath, toList_address, if_pos (List.isPrefixOf_iff_prefix.2 (List.prefix_append _ _)),
    List.drop_left, String.ofList_toList]

end Sqlite

/-! ### Addresses of files -/

namespace Dsn

open Text Sqlite

/-- A text without what is no part of an address. -/
def cleaned (s : List Char) : List Char :=
  s.filter fun c => !isDropped c

/-- The address of a file that is read. -/
def ofFile (path : List Char) (query : List (String × String)) : Dsn where
  scheme := "sqlite"
  username := none
  password := none
  host := none
  port := none
  path := String.ofList ('/' :: path)
  query

theorem cutQuery_slash (s : List Char) :
    cutQuery ('/' :: s) = ('/' :: (cutQuery s).1, (cutQuery s).2) := by
  have hcons : ∀ (c : Char) (t : List Char), c ≠ '/' →
      cut c ('/' :: t) = ('/' :: (cut c t).1, (cut c t).2) := fun c t hc => by
    rw [cut, if_neg hc.symm]
  simp only [cutQuery, hcons '#' _ (by decide), hcons '?' _ (by decide)]

/-- After the start of the address of a file there are a path and a query only. -/
theorem readChars_address (rest : List Char) :
    readChars (addressStart ++ rest) =
      .ok (ofFile (cutQuery (cleaned rest)).1 (readQuery (cutQuery (cleaned rest)).2)) := by
  have hclean : ((addressStart ++ rest).dropWhile isLeading).filter (fun c => !isDropped c) =
      addressStart ++ cleaned rest := by
    rfl
  have hscheme : cutScheme (addressStart ++ cleaned rest) =
      ("sqlite".toList, '/' :: '/' :: '/' :: cleaned rest) := by
    rfl
  have hauthority :
      cutAuthority ('/' :: '/' :: '/' :: cleaned rest) = ([], '/' :: cleaned rest) := by
    rfl
  have hfile : ofParts "sqlite".toList [] ('/' :: cleaned rest) =
      .ok (ofFile (cutQuery (cleaned rest)).1 (readQuery (cutQuery (cleaned rest)).2)) := by
    have hcheck : checkAuthority [] = .ok () := rfl
    have hparameters : parameterSchemes.contains (String.ofList "sqlite".toList) = false := by
      decide +kernel
    rw [ofParts, hcheck, cutQuery_slash, hparameters]
    rfl
  simp only [readChars, hclean, hscheme, hauthority, hfile]

/-- A path is read without its query. -/
theorem read_file {path query : List Char} (hpath : ∀ c ∈ path, c ≠ '?' ∧ c ≠ '#')
    (hquery : '#' ∉ query) :
    readChars (addressStart ++ (path ++ '?' :: query)) =
      .ok (ofFile (cleaned path) (readQuery (cleaned query))) ∧
    readChars (addressStart ++ path) = .ok (ofFile (cleaned path) []) := by
  have hmark : '?' ∉ cleaned path := fun h => (hpath _ (List.mem_filter.1 h).1).1 rfl
  have hfragment : '#' ∉ cleaned path := fun h => (hpath _ (List.mem_filter.1 h).1).2 rfl
  have hnone : cut '#' (cleaned path ++ '?' :: cleaned query) =
      (cleaned path ++ '?' :: cleaned query, none) := by
    refine cut_of_not_mem fun h => ?_
    rcases List.mem_append.1 h with h | h
    · exact hfragment h
    · rcases List.mem_cons.1 h with h | h
      · cases h
      · exact hquery (List.mem_filter.1 h).1
  have hwith : cleaned (path ++ '?' :: query) = cleaned path ++ '?' :: cleaned query :=
    List.filter_append ..
  constructor
  · rw [readChars_address, hwith, cutQuery, hnone, cut_append hmark]
    rfl
  · rw [readChars_address, cutQuery, cut_of_not_mem hfragment, cut_of_not_mem hmark]
    rfl

end Dsn

/-! ### Configurations of files -/

namespace ConnectionConfig

variable {url : String} {given : Settings} {dsn : Dsn} {config : ConnectionConfig}

/-- A configuration of an address that was read keeps its text and its parts; the settings beside it
were accepted. -/
theorem facts_of_ofAddress (h : ofAddress url given dsn = .ok config) :
    config.url = url ∧ config.parts = .read dsn ∧
      (∃ overrides, recordEntries ((given.lookup "options").getD .null) = .ok overrides) ∧
      checkSettings given = .ok () := by
  rw [ofAddress] at h
  cases hautocommit : queryAutocommit dsn.query with
  | error e =>
    rw [hautocommit] at h
    cases h
  | ok autocommit =>
    cases htimeout : queryTimeout dsn.query with
    | error e =>
      rw [hautocommit, htimeout] at h
      cases h
    | ok timeout =>
      cases hentries : recordEntries ((given.lookup "options").getD .null) with
      | error e =>
        rw [hautocommit, htimeout, hentries] at h
        cases h
      | ok overrides =>
        cases hcheck : checkSettings given with
        | error e =>
          rw [hautocommit, htimeout, hentries, hcheck] at h
          cases h
        | ok _ =>
          rw [hautocommit, htimeout, hentries, hcheck] at h
          obtain rfl := Except.ok.inj h
          exact ⟨rfl, rfl, ⟨overrides, rfl⟩, rfl⟩

/-- Without a query nothing is refused but settings beside the address. -/
theorem exists_ofAddress (hquery : dsn.query = []) {overrides : Settings}
    (hentries : recordEntries ((given.lookup "options").getD .null) = .ok overrides)
    (hcheck : checkSettings given = .ok ()) (url : String) :
    ∃ config, ofAddress url given dsn = .ok config := by
  rw [ofAddress, hquery, hentries, hcheck]
  exact ⟨_, rfl⟩

theorem ofDsn_eq_of_read {text : String} (hread : Dsn.read text = .ok dsn) (given : Settings) :
    ofDsn text given = (forbid "dsn" given >>= fun _ => ofAddress text given dsn) := by
  rw [ofDsn, hread]
  rfl

theorem exists_of_isOk {x : Except SettingsError ConnectionConfig} (h : x.isOk = true) :
    ∃ config, x = .ok config := by
  cases x with
  | error e => cases h
  | ok config => exact ⟨config, rfl⟩

section File

variable {path query : String}

/-- The configurations of an address with and without a query keep the text of their address, and
know the same address but for the settings. -/
theorem configs_of_query (hpath : ∀ c ∈ path.toList, c ≠ '?' ∧ c ≠ '#')
    (hquery : '#' ∉ query.toList)
    (h : ofDsn (Sqlite.address (path ++ "?" ++ query)) given = .ok config) :
    config.url = Sqlite.address (path ++ "?" ++ query) ∧
      config.parts = .read (.ofFile (Dsn.cleaned path.toList)
        (Dsn.readQuery (Dsn.cleaned query.toList))) ∧
      ∃ plain, ofDsn (Sqlite.address path) given = .ok plain ∧
        plain.url = Sqlite.address path ∧
        plain.parts = .read (.ofFile (Dsn.cleaned path.toList) []) := by
  have htext : (path ++ "?" ++ query).toList = path.toList ++ '?' :: query.toList := by simp
  obtain ⟨hwith, hwithout⟩ := Dsn.read_file hpath hquery
  have hread : Dsn.read (Sqlite.address (path ++ "?" ++ query)) =
      .ok (.ofFile (Dsn.cleaned path.toList) (Dsn.readQuery (Dsn.cleaned query.toList))) := by
    rw [Dsn.read, Sqlite.toList_address, htext, hwith]
  have hplain : Dsn.read (Sqlite.address path) = .ok (.ofFile (Dsn.cleaned path.toList) []) := by
    rw [Dsn.read, Sqlite.toList_address, hwithout]
  rw [ofDsn_eq_of_read hread] at h
  cases hforbid : forbid "dsn" given with
  | error e =>
    rw [hforbid] at h
    cases h
  | ok _ =>
    rw [hforbid] at h
    obtain ⟨hurl, hparts, ⟨overrides, hentries⟩, hcheck⟩ := facts_of_ofAddress h
    have hnone : (Dsn.ofFile (Dsn.cleaned path.toList) []).query = [] := rfl
    obtain ⟨plain, hok⟩ := exists_ofAddress hnone hentries hcheck (Sqlite.address path)
    obtain ⟨hplain_url, hplain_parts, -, -⟩ := facts_of_ofAddress hok
    refine ⟨hurl, hparts, plain, ?_, hplain_url, hplain_parts⟩
    rw [ofDsn_eq_of_read hplain, hforbid]
    exact hok

end File

end ConnectionConfig

namespace Sqlite

open ConnectionConfig

/-- **The file that an address with a query opens.**  If the address of a file is accepted with a
query, it is accepted without it, and both are read as the same path; but the driver is asked for
the path with the query behind it in the one case and for the path in the other, so that another
database is opened. -/
theorem connect_target_of_query {path query : String} (hmark : '?' ∉ path.toList)
    (hfragment : '#' ∉ path.toList) (hquery : '#' ∉ query.toList) {given : Settings}
    {config : ConnectionConfig}
    (h : ofDsn (address (path ++ "?" ++ query)) given = .ok config) :
    ∃ plain, ofDsn (address path) given = .ok plain ∧
      config.parts = .read (.ofFile (Dsn.cleaned path.toList)
        (Dsn.readQuery (Dsn.cleaned query.toList))) ∧
      plain.parts = .read (.ofFile (Dsn.cleaned path.toList) []) ∧
      ∀ script s,
        (connect config script s).targets = [path ++ "?" ++ query] ∧
        (connect plain script s).targets = [path] ∧
        (connect config script s).targets ≠ (connect plain script s).targets := by
  have hpath : ∀ c ∈ path.toList, c ≠ '?' ∧ c ≠ '#' := fun c hc =>
    ⟨fun hmark' => hmark (hmark' ▸ hc), fun hfragment' => hfragment (hfragment' ▸ hc)⟩
  obtain ⟨hurl, hparts, plain, hplain, hplain_url, hplain_parts⟩ :=
    configs_of_query hpath hquery h
  refine ⟨plain, hplain, hparts, hplain_parts, fun script s => ?_⟩
  have hwith : (connect config script s).targets = [path ++ "?" ++ query] := by
    rw [connect_targets, hurl, databasePath_address]
  have hwithout : (connect plain script s).targets = [path] := by
    rw [connect_targets, hplain_url, databasePath_address]
  refine ⟨hwith, hwithout, ?_⟩
  rw [hwith, hwithout]
  intro heq
  have hlength := congrArg String.length (List.singleton_inj.1 heq)
  simp only [String.length_append] at hlength
  have hone : "?".length = 1 := rfl
  omega

/-- With a query, the address of the database in memory opens a file. -/
theorem connect_target_of_memory_query :
    ∃ config plain, ofDsn (address (":memory:" ++ "?" ++ "autocommit=true")) [] = .ok config ∧
      ofDsn (address ":memory:") [] = .ok plain ∧
      ∀ script s,
        (connect config script s).targets = [":memory:" ++ "?" ++ "autocommit=true"] ∧
        (connect plain script s).targets = [":memory:"] := by
  obtain ⟨config, hconfig⟩ := exists_of_isOk (show
    (ofDsn (address (":memory:" ++ "?" ++ "autocommit=true")) []).isOk = true by decide +kernel)
  obtain ⟨plain, hplain, -, -, htargets⟩ :=
    connect_target_of_query (by simp) (by simp) (by simp) hconfig
  exact ⟨config, plain, hconfig, hplain, fun script s =>
    ⟨(htargets script s).1, (htargets script s).2.1⟩⟩

/-- The settings of an address do change which database is opened. -/
theorem not_connect_target_without_query :
    ¬ ∀ (path query : String) (config plain : ConnectionConfig),
      '?' ∉ path.toList → '#' ∉ path.toList → '#' ∉ query.toList →
      ofDsn (address (path ++ "?" ++ query)) [] = .ok config →
      ofDsn (address path) [] = .ok plain →
      ∀ script s, (connect config script s).targets = (connect plain script s).targets := by
  intro hclaim
  obtain ⟨config, hconfig⟩ := exists_of_isOk (show
    (ofDsn (address ("app.db" ++ "?" ++ "autocommit=true&timeout=2")) []).isOk = true by
      decide +kernel)
  have hpath : ∀ c ∈ "app.db".toList, c ≠ '?' ∧ c ≠ '#' := by simp
  have hquery : '#' ∉ "autocommit=true&timeout=2".toList := by simp
  obtain ⟨hurl, -, plain, hplain, hplain_url, -⟩ := configs_of_query hpath hquery hconfig
  have hsame := hclaim _ _ config plain (fun h => (hpath _ h).1 rfl) (fun h => (hpath _ h).2 rfl)
    hquery hconfig hplain {} { adapter := { backend := .sqlite } }
  rw [connect_targets, connect_targets, hurl, hplain_url, databasePath_address,
    databasePath_address] at hsame
  exact absurd hsame (by decide +kernel)

end Sqlite

end SqlDialect
