import SqlDialect.Proofs.Template
import SqlDialect.Value.Equality

/-!
# Quoted SQL determines the node

With identifiers in quotes, a table drop and a unique, primary or foreign key of a table can be told
from the SQL that strict rendering writes for them (`strict_sql_injective`): no name can close its
quotes and be taken for another name, a separator, a keyword or an action.

The SQL is the template of the node, and the template is decoded from left to right.  Each lemma
`…_append_inj` is about one piece of it: if two texts both start with such a piece, the pieces are of
the same parts and the texts go on alike.  A piece ends where what follows cannot belong to it,
which is what the hypotheses about the rest say: a name is not followed by a quote, a list of names
neither by a quote nor by a comma.  Where the template has a choice, its keywords are `Apart`.
-/

namespace SqlDialect

/-! ### Texts that nothing makes the same -/

/-- Neither text is a start of the other, so that nothing can follow them to make them the same. -/
def Apart (p q : List Char) : Prop :=
  ¬ p <+: q ∧ ¬ q <+: p

instance (p q : List Char) : Decidable (Apart p q) :=
  inferInstanceAs (Decidable (¬ p <+: q ∧ ¬ q <+: p))

namespace Apart

variable {p q : List Char}

theorem symm (h : Apart p q) : Apart q p :=
  And.symm h

theorem ne_nil (h : Apart p q) : p ≠ [] := by
  rintro rfl
  exact h.1 List.nil_prefix

theorem not_prefix_append (h : Apart p q) (x : List Char) : ¬ p <+: q ++ x := by
  intro hp
  rcases List.prefix_or_prefix_of_prefix hp (List.prefix_append q x) with hpq | hqp
  · exact h.1 hpq
  · exact h.2 hqp

theorem append_ne (h : Apart p q) (x y : List Char) : p ++ x ≠ q ++ y := by
  intro heq
  have hp : p <+: q ++ y := heq ▸ List.prefix_append p x
  exact h.not_prefix_append y hp

/-- Whether an optional word is there is told by how what follows it starts. -/
theorem option_append_inj (h : Apart p q) {b c : Prop} [Decidable b] [Decidable c]
    {x y : List Char} (hx : q <+: x) (hy : q <+: y)
    (heq : (if b then p else []) ++ x = (if c then p else []) ++ y) : (b ↔ c) ∧ x = y := by
  obtain ⟨x', rfl⟩ := hx
  obtain ⟨y', rfl⟩ := hy
  by_cases hb : b
  · by_cases hc : c
    · rw [if_pos hb, if_pos hc] at heq
      exact ⟨iff_of_true hb hc, List.append_cancel_left heq⟩
    · rw [if_pos hb, if_neg hc] at heq
      exact absurd heq (h.append_ne _ _)
  · by_cases hc : c
    · rw [if_neg hb, if_pos hc] at heq
      exact absurd heq.symm (h.append_ne _ _)
    · rw [if_neg hb, if_neg hc] at heq
      exact ⟨iff_of_false hb hc, heq⟩

end Apart

/-! ### Names in quotes -/

/-- A quoted name ends at the first quote that is not doubled. -/
theorem doubleQuotes_append_inj {a b x y : List Char} (hx : ¬ ['"'] <+: x) (hy : ¬ ['"'] <+: y)
    (h : doubleQuotes a ++ '"' :: x = doubleQuotes b ++ '"' :: y) : a = b ∧ x = y := by
  induction a generalizing b with
  | nil =>
    cases b with
    | nil => exact ⟨rfl, List.tail_eq_of_cons_eq h⟩
    | cons d b =>
      rw [doubleQuotes, doubleQuotes] at h
      split at h
      · -- the closing quote of the first name would be half of a doubled one
        obtain rfl := List.tail_eq_of_cons_eq h
        exact absurd (List.prefix_append ['"'] _) hx
      · exact absurd (List.head_eq_of_cons_eq h).symm ‹_›
  | cons c a ih =>
    cases b with
    | nil =>
      rw [doubleQuotes, doubleQuotes] at h
      split at h
      · obtain rfl := List.tail_eq_of_cons_eq h
        exact absurd (List.prefix_append ['"'] _) hy
      · exact absurd (List.head_eq_of_cons_eq h) ‹_›
    | cons d b =>
      rw [doubleQuotes, doubleQuotes] at h
      by_cases hc : c = '"'
      · by_cases hd : d = '"'
        · rw [if_pos hc, if_pos hd] at h
          obtain ⟨rfl, rfl⟩ := ih (List.tail_eq_of_cons_eq (List.tail_eq_of_cons_eq h))
          exact ⟨by rw [hc, hd], rfl⟩
        · rw [if_pos hc, if_neg hd] at h
          exact absurd (List.head_eq_of_cons_eq h).symm hd
      · by_cases hd : d = '"'
        · rw [if_neg hc, if_pos hd] at h
          exact absurd (List.head_eq_of_cons_eq h) hc
        · rw [if_neg hc, if_neg hd] at h
          obtain ⟨rfl, rfl⟩ := ih (List.tail_eq_of_cons_eq h)
          exact ⟨by rw [List.head_eq_of_cons_eq h], rfl⟩

/-- What may follow a list of names. -/
def EndsNames (x : List Char) : Prop :=
  ¬ ['"'] <+: x ∧ ¬ [','] <+: x

theorem endsNames_nil : EndsNames [] := by
  simp [EndsNames]

theorem endsNames_cons {c : Char} (hquote : '"' ≠ c) (hcomma : ',' ≠ c) (x : List Char) :
    EndsNames (c :: x) := by
  simp [EndsNames, hquote, hcomma]

namespace Strategy

variable {s : Strategy} (hs : s.quoteIdentifiers = true)

include hs

theorem toList_name (text : String) :
    (s.name text).toList = '"' :: doubleQuotes text.toList ++ ['"'] := by
  simp [name, formatIdentifier, hs, QuoteStyle.quote]

theorem name_append_inj {a b : String} {x y : List Char} (hx : ¬ ['"'] <+: x)
    (hy : ¬ ['"'] <+: y) (h : (s.name a).toList ++ x = (s.name b).toList ++ y) :
    a = b ∧ x = y := by
  rw [toList_name hs, toList_name hs] at h
  simp only [List.cons_append, List.append_assoc, List.nil_append] at h
  obtain ⟨hab, hxy⟩ := doubleQuotes_append_inj hx hy (List.tail_eq_of_cons_eq h)
  exact ⟨String.toList_inj.mp hab, hxy⟩

/-- Lists of names that are not empty are told apart, their lengths included. -/
theorem names_append_inj {as bs : List String} (has : as ≠ []) (hbs : bs ≠ []) {x y : List Char}
    (hx : EndsNames x) (hy : EndsNames y)
    (h : (String.intercalate ", " (as.map s.name)).toList ++ x =
      (String.intercalate ", " (bs.map s.name)).toList ++ y) : as = bs ∧ x = y := by
  have hcomma (rest : List Char) : ¬ ['"'] <+: ',' :: rest := by simp
  have hseparator : (", " : String).toList = [',', ' '] := rfl
  -- where one list ends and the other goes on, a comma would follow the list that ends
  induction as generalizing bs with
  | nil => exact absurd rfl has
  | cons a as ih =>
    obtain ⟨b, bs, rfl⟩ := List.exists_cons_of_ne_nil hbs
    cases as with
    | nil =>
      cases bs with
      | nil =>
        simp only [List.map_cons, List.map_nil, String.intercalate_singleton] at h
        obtain ⟨rfl, rfl⟩ := name_append_inj hs hx.1 hy.1 h
        exact ⟨rfl, rfl⟩
      | cons b' bs =>
        simp only [List.map_cons, List.map_nil, String.intercalate_singleton,
          String.intercalate_cons_cons, String.toList_append, hseparator, List.append_assoc,
          List.cons_append] at h
        obtain ⟨-, rfl⟩ := name_append_inj hs hx.1 (hcomma _) h
        exact absurd (List.prefix_append [','] _) hx.2
    | cons a' as =>
      cases bs with
      | nil =>
        simp only [List.map_cons, List.map_nil, String.intercalate_singleton,
          String.intercalate_cons_cons, String.toList_append, hseparator, List.append_assoc,
          List.cons_append] at h
        obtain ⟨-, rfl⟩ := name_append_inj hs (hcomma _) hy.1 h
        exact absurd (List.prefix_append [','] _) hy.2
      | cons b' bs =>
        simp only [List.map_cons, String.intercalate_cons_cons, String.toList_append, hseparator,
          List.append_assoc, List.cons_append, List.nil_append] at h
        obtain ⟨rfl, hrest⟩ := name_append_inj hs (hcomma _) (hcomma _) h
        simp only [List.cons.injEq, true_and] at hrest
        obtain ⟨hlist, rfl⟩ := ih (List.cons_ne_nil _ _) (List.cons_ne_nil _ _) hrest
        exact ⟨by rw [hlist], rfl⟩

end Strategy

/-! ### Names as values -/

theorem Value.sameAs_of_text {v w : Value} {text : String} (hv : v.text? = some text)
    (hw : w.text? = some text) : v.sameAs w = true := by
  have hinj {t u : SqlType} (h : t.sqlText = u.sqlText) : t = u := by
    have := congrArg SqlType.ofText? h
    rwa [SqlType.ofText?_sqlText, SqlType.ofText?_sqlText, Option.some.injEq] at this
  unfold text? at hv hw
  split at hv
  · obtain rfl := Option.some.inj hv
    split at hw
    · obtain rfl := Option.some.inj hw
      exact beq_self_eq_true _
    · obtain rfl := Option.some.inj hw
      exact beq_self_eq_true _
    · exact absurd hw nofun
  · obtain rfl := Option.some.inj hv
    split at hw
    · obtain rfl := Option.some.inj hw
      exact beq_self_eq_true _
    · obtain rfl := hinj (Option.some.inj hw)
      exact beq_self_eq_true _
    · exact absurd hw nofun
  · exact absurd hv nofun

/-- Names with the same texts are the same values. -/
theorem sameItems_of_textsOf_eq {as bs : List Value} (has : ∀ v ∈ as, v.isName = true)
    (hbs : ∀ v ∈ bs, v.isName = true) (h : textsOf as = textsOf bs) :
    Value.sameItems as bs = true := by
  induction as generalizing bs with
  | nil =>
    cases bs with
    | nil => rfl
    | cons b bs =>
      obtain ⟨text, htext⟩ := Value.exists_text_of_isName (hbs b List.mem_cons_self)
      rw [textsOf_cons htext] at h
      exact absurd h nofun
  | cons a as ih =>
    obtain ⟨ha, has⟩ := List.forall_mem_cons.mp has
    obtain ⟨text, htext⟩ := Value.exists_text_of_isName ha
    rw [textsOf_cons htext] at h
    cases bs with
    | nil => exact absurd h nofun
    | cons b bs =>
      obtain ⟨hb, hbs⟩ := List.forall_mem_cons.mp hbs
      obtain ⟨text', htext'⟩ := Value.exists_text_of_isName hb
      rw [textsOf_cons htext'] at h
      obtain ⟨rfl, hrest⟩ := List.cons.inj h
      rw [Value.sameItems, Value.sameAs_of_text htext htext', ih has hbs hrest]
      rfl

theorem textsOf_ne_nil {names : List Value} (h : ¬ Unnamed names) : textsOf names ≠ [] := by
  intro hnil
  have hlength := length_textsOf (isName_of_named h)
  rw [hnil] at hlength
  exact h (.inl (List.length_eq_zero_iff.mp hlength.symm))

theorem Strategy.nameList_append_inj {s : Strategy} (hs : s.quoteIdentifiers = true)
    {as bs : List Value} (has : ¬ Unnamed as) (hbs : ¬ Unnamed bs) {x y : List Char}
    (hx : EndsNames x) (hy : EndsNames y)
    (h : (s.nameList as).toList ++ x = (s.nameList bs).toList ++ y) :
    Value.sameItems as bs = true ∧ x = y := by
  obtain ⟨htexts, rfl⟩ :=
    s.names_append_inj hs (textsOf_ne_nil has) (textsOf_ne_nil hbs) hx hy h
  exact ⟨sameItems_of_textsOf_eq (isName_of_named has) (isName_of_named hbs) htexts, rfl⟩

/-! ### Keywords -/

theorem ActionType.mem_all (a : ActionType) : a ∈ all := by
  cases a <;> decide

theorem DropAction.mem_all (a : DropAction) : a ∈ all := by
  cases a <;> decide

namespace Strategy

variable (s : Strategy)

theorem apart_ifExists : Apart (s.formatKeyword "if exists ").toList ['"'] := by
  unfold formatKeyword
  cases s.keywordCase <;> decide +kernel

theorem apart_nullsNotDistinct : Apart (s.formatKeyword "nulls not distinct ").toList ['('] := by
  unfold formatKeyword
  cases s.keywordCase <;> decide +kernel

theorem apart_onUpdate_onDelete :
    Apart (s.formatKeyword " on update ").toList (s.formatKeyword " on delete ").toList := by
  unfold formatKeyword
  cases s.keywordCase <;> decide +kernel

/-- The columns of an action are not taken for the action on delete. -/
theorem apart_columns_onDelete : Apart [' ', '('] (s.formatKeyword " on delete ").toList := by
  unfold formatKeyword
  cases s.keywordCase <;> decide +kernel

theorem apart_actionType {a b : ActionType} (h : a ≠ b) :
    Apart (s.formatKeyword a.sqlText).toList (s.formatKeyword b.sqlText).toList := by
  have hall : ∀ a ∈ ActionType.all, ∀ b ∈ ActionType.all, a ≠ b →
      Apart (s.formatKeyword a.sqlText).toList (s.formatKeyword b.sqlText).toList := by
    unfold formatKeyword
    cases s.keywordCase <;> decide +kernel
  exact hall a a.mem_all b b.mem_all h

theorem apart_dropAction {a b : DropAction} (h : a ≠ b) :
    Apart (s.formatKeyword (" " ++ a.sqlText)).toList (s.formatKeyword (" " ++ b.sqlText)).toList := by
  have hall : ∀ a ∈ DropAction.all, ∀ b ∈ DropAction.all, a ≠ b →
      Apart (s.formatKeyword (" " ++ a.sqlText)).toList
        (s.formatKeyword (" " ++ b.sqlText)).toList := by
    unfold formatKeyword
    cases s.keywordCase <;> decide +kernel
  exact hall a a.mem_all b b.mem_all h

theorem toList_dropAction_ne_nil (a : DropAction) :
    (s.formatKeyword (" " ++ a.sqlText)).toList ≠ [] := by
  cases a with
  | restrict => exact (s.apart_dropAction (a := .restrict) (b := .cascade) (by decide)).ne_nil
  | cascade => exact (s.apart_dropAction (a := .cascade) (b := .restrict) (by decide)).ne_nil

/-- A drop action is not taken for another table. -/
theorem endsNames_dropAction (a : DropAction) :
    EndsNames (s.formatKeyword (" " ++ a.sqlText)).toList := by
  unfold formatKeyword EndsNames
  cases a <;> cases s.keywordCase <;> decide +kernel

end Strategy

/-! ### Actions -/

/-- Two optional actions are both absent, or of one type and with the same columns. -/
def SameAction : Option ReferentialAction → Option ReferentialAction → Prop
  | none, none => True
  | some a, some b => a.type = b.type ∧ Value.sameItems a.columns b.columns = true
  | _, _ => False

theorem ReferentialAction.sql_append_inj {s : Strategy} (hs : s.quoteIdentifiers = true)
    {a b : ReferentialAction} (ha : ¬ a.Malformed) (hb : ¬ b.Malformed) {x y : List Char}
    (hx : ¬ [' ', '('] <+: x) (hy : ¬ [' ', '('] <+: y)
    (h : (a.sql s).toList ++ x = (b.sql s).toList ++ y) :
    (a.type = b.type ∧ Value.sameItems a.columns b.columns = true) ∧ x = y := by
  have hparenthesis : (" (" : String).toList = [' ', '('] := rfl
  have hclosing : (")" : String).toList = [')'] := rfl
  have hends (rest : List Char) : EndsNames (')' :: rest) :=
    endsNames_cons (by decide) (by decide) rest
  unfold ReferentialAction.sql at h
  simp only [String.toList_append, List.append_assoc] at h
  -- two types are apart, so the columns need not be looked at to tell them
  have htype : a.type = b.type := by
    by_contra hne
    exact (s.apart_actionType hne).append_ne _ _ h
  rw [htype] at h
  have hrest := List.append_cancel_left h
  cases hca : a.columns with
  | nil =>
    cases hcb : b.columns with
    | nil =>
      simp only [hca, hcb, List.isEmpty_nil, if_true, String.toList_empty, List.nil_append] at hrest
      exact ⟨⟨htype, rfl⟩, hrest⟩
    | cons w bs =>
      -- the columns of the second action would follow the first one
      simp only [hca, hcb, List.isEmpty_nil, List.isEmpty_cons, if_true, Bool.false_eq_true,
        if_false, String.toList_empty, List.nil_append, String.toList_append, hparenthesis,
        List.append_assoc] at hrest
      exact absurd (hrest ▸ List.prefix_append _ _) hx
  | cons v as =>
    cases hcb : b.columns with
    | nil =>
      simp only [hca, hcb, List.isEmpty_nil, List.isEmpty_cons, if_true, Bool.false_eq_true,
        if_false, String.toList_empty, List.nil_append, String.toList_append, hparenthesis,
        List.append_assoc] at hrest
      exact absurd (hrest ▸ List.prefix_append _ _) hy
    | cons w bs =>
      simp only [hca, hcb, List.isEmpty_cons, Bool.false_eq_true, if_false, String.toList_append,
        List.append_assoc, hclosing] at hrest
      have hnames := List.append_cancel_left hrest
      obtain ⟨hsame, htail⟩ := Strategy.nameList_append_inj hs
        (ReferentialAction.not_unnamed_of_cons ha hca)
        (ReferentialAction.not_unnamed_of_cons hb hcb) (hends x) (hends y) hnames
      exact ⟨⟨htype, hsame⟩, List.tail_eq_of_cons_eq htail⟩

/-- A clause is told from what follows it by the words that introduce it. -/
theorem ReferentialAction.sqlClause_append_inj {s : Strategy} (hs : s.quoteIdentifiers = true)
    {words : String} {a b : Option ReferentialAction} (ha : ∀ x ∈ a, ¬ x.Malformed)
    (hb : ∀ x ∈ b, ¬ x.Malformed) {x y : List Char}
    (hx : ¬ (s.formatKeyword words).toList <+: x) (hy : ¬ (s.formatKeyword words).toList <+: y)
    (hxc : ¬ [' ', '('] <+: x) (hyc : ¬ [' ', '('] <+: y)
    (h : (sqlClause s words a).toList ++ x = (sqlClause s words b).toList ++ y) :
    SameAction a b ∧ x = y := by
  cases a with
  | none =>
    cases b with
    | none => exact ⟨trivial, h⟩
    | some b =>
      simp only [sqlClause, String.toList_empty, List.nil_append, String.toList_append,
        List.append_assoc] at h
      exact absurd (h ▸ List.prefix_append _ _) hx
  | some a =>
    cases b with
    | none =>
      simp only [sqlClause, String.toList_empty, List.nil_append, String.toList_append,
        List.append_assoc] at h
      exact absurd (h ▸ List.prefix_append _ _) hy
    | some b =>
      simp only [sqlClause, String.toList_append, List.append_assoc] at h
      exact sql_append_inj hs (ha a rfl) (hb b rfl) hxc hyc (List.append_cancel_left h)

/-- A clause starts with the words that introduce it, if there is one. -/
theorem ReferentialAction.not_prefix_sqlClause {s : Strategy} {words : String} {p : List Char}
    (hne : p ≠ []) (hp : Apart p (s.formatKeyword words).toList) (a : Option ReferentialAction) :
    ¬ p <+: (sqlClause s words a).toList := by
  cases a with
  | none => exact fun h => hne (List.prefix_nil.mp h)
  | some a =>
    rw [sqlClause, String.toList_append]
    exact hp.not_prefix_append _

/-- What a foreign key says after its own columns determines the table, its columns and both
actions. -/
theorem ForeignKey.sqlReferences_inj {s : Strategy} (hs : s.quoteIdentifiers = true)
    {f g : ForeignKey} (hf : ¬ f.MalformedReferences) (hg : ¬ g.MalformedReferences)
    (h : f.sqlReferences s = g.sqlReferences s) :
    f.refTable = g.refTable ∧ Value.sameItems f.refColumns g.refColumns = true ∧
      SameAction f.onUpdate g.onUpdate ∧ SameAction f.onDelete g.onDelete := by
  have hparenthesis : (" (" : String).toList = [' ', '('] := rfl
  have hclosing : (")" : String).toList = [')'] := rfl
  have hblank (rest : List Char) : ¬ ['"'] <+: ' ' :: rest := by simp
  have hends (rest : List Char) : EndsNames (')' :: rest) :=
    endsNames_cons (by decide) (by decide) rest
  have honUpdate : (s.formatKeyword " on update ").toList ≠ [] := s.apart_onUpdate_onDelete.ne_nil
  obtain ⟨hfnames, hfactions⟩ := not_or.mp hf
  obtain ⟨hgnames, hgactions⟩ := not_or.mp hg
  have haction {k : ForeignKey} (hk : ¬ ∃ a ∈ k.actions, a.Malformed) :
      (∀ a ∈ k.onUpdate, ¬ a.Malformed) ∧ ∀ a ∈ k.onDelete, ¬ a.Malformed := by
    refine ⟨fun a ha hmal => hk ⟨a, ?_, hmal⟩, fun a ha hmal => hk ⟨a, ?_, hmal⟩⟩
    · exact List.mem_append_left _ (Option.mem_toList.mpr ha)
    · exact List.mem_append_right _ (Option.mem_toList.mpr ha)
  -- the pieces are taken off one by one: the table, its columns, and the two actions
  have hchars := congrArg String.toList h
  simp only [sqlReferences, String.toList_append, List.append_assoc, hparenthesis, hclosing,
    List.cons_append, List.nil_append] at hchars
  have htable := List.append_cancel_left hchars
  obtain ⟨htable, hcolumns⟩ := Strategy.name_append_inj hs (hblank _) (hblank _) htable
  simp only [List.cons.injEq, true_and] at hcolumns
  obtain ⟨hcolumns, hupdate⟩ :=
    Strategy.nameList_append_inj hs hfnames hgnames (hends _) (hends _) hcolumns
  obtain ⟨hupdate, hdelete⟩ := ReferentialAction.sqlClause_append_inj hs
    (haction hfactions).1 (haction hgactions).1
    (ReferentialAction.not_prefix_sqlClause honUpdate s.apart_onUpdate_onDelete f.onDelete)
    (ReferentialAction.not_prefix_sqlClause honUpdate s.apart_onUpdate_onDelete g.onDelete)
    (ReferentialAction.not_prefix_sqlClause (List.cons_ne_nil _ _) s.apart_columns_onDelete _)
    (ReferentialAction.not_prefix_sqlClause (List.cons_ne_nil _ _) s.apart_columns_onDelete _)
    (List.tail_eq_of_cons_eq hupdate)
  have honDelete : ¬ (s.formatKeyword " on delete ").toList <+: [] := by
    rw [List.prefix_nil]
    exact s.apart_onUpdate_onDelete.symm.ne_nil
  rw [← List.append_nil (ReferentialAction.sqlClause s " on delete " f.onDelete).toList,
    ← List.append_nil (ReferentialAction.sqlClause s " on delete " g.onDelete).toList] at hdelete
  obtain ⟨hdelete, -⟩ := ReferentialAction.sqlClause_append_inj hs
    (haction hfactions).2 (haction hgactions).2 honDelete honDelete
    (by simp) (by simp) hdelete
  exact ⟨htable, hcolumns, hupdate, hdelete⟩

/-! ### Table drops and table constraints -/

/-- A list of names starts with a quote. -/
theorem Strategy.quote_prefix_nameList {s : Strategy} (hs : s.quoteIdentifiers = true)
    {names : List Value} (h : ¬ Unnamed names) (x : List Char) :
    ['"'] <+: (s.nameList names).toList ++ x := by
  rw [nameList]
  obtain ⟨text, rest, htexts⟩ := List.exists_cons_of_ne_nil (textsOf_ne_nil h)
  rw [htexts, List.map_cons]
  cases rest with
  | nil => simp [toList_name hs]
  | cons next rest => simp [toList_name hs]

/-- `[ restrict|cascade]`, the end of a table drop. -/
def DropAction.sqlClause (s : Strategy) : Option DropAction → String
  | none => ""
  | some a => s.formatKeyword (" " ++ a.sqlText)

theorem DropAction.endsNames_sqlClause (s : Strategy) (a : Option DropAction) :
    EndsNames (sqlClause s a).toList := by
  cases a with
  | none => exact endsNames_nil
  | some a => exact s.endsNames_dropAction a

theorem DropAction.sqlClause_inj {s : Strategy} {a b : Option DropAction}
    (h : (sqlClause s a).toList = (sqlClause s b).toList) : a = b := by
  cases a with
  | none =>
    cases b with
    | none => rfl
    | some b => exact absurd h.symm (s.toList_dropAction_ne_nil b)
  | some a =>
    cases b with
    | none => exact absurd h (s.toList_dropAction_ne_nil a)
    | some b =>
      by_contra hdiffer
      have hapart := s.apart_dropAction (a := a) (b := b) fun hsame => hdiffer (congrArg some hsame)
      exact hapart.1 (h ▸ List.prefix_rfl)

theorem DropTable.sql_eq (d : DropTable) (s : Strategy) :
    d.sql s = s.formatKeyword "drop table " ++
      (if d.ifExists.isTrue then s.formatKeyword "if exists " else "") ++
      s.nameList d.tableNames ++ DropAction.sqlClause s d.action := by
  unfold sql DropAction.sqlClause
  cases d.action <;> rfl

theorem DropTable.sql_inj {s : Strategy} (hs : s.quoteIdentifiers = true) {d e : DropTable}
    (hd : ¬ Unnamed d.tableNames) (he : ¬ Unnamed e.tableNames) (h : d.sql s = e.sql s) :
    Value.sameItems d.tableNames e.tableNames = true ∧
      d.ifExists.isTrue = e.ifExists.isTrue ∧ d.action = e.action := by
  have hends (a : Option DropAction) := DropAction.endsNames_sqlClause s a
  have hchars := congrArg String.toList h
  simp only [sql_eq, String.toList_append, List.append_assoc, apply_ite String.toList,
    String.toList_empty] at hchars
  obtain ⟨hexists, htables⟩ := s.apart_ifExists.option_append_inj
    (Strategy.quote_prefix_nameList hs hd _) (Strategy.quote_prefix_nameList hs he _)
    (List.append_cancel_left hchars)
  obtain ⟨hnames, haction⟩ := Strategy.nameList_append_inj hs hd he (hends _) (hends _) htables
  exact ⟨hnames, Bool.eq_iff_iff.mpr hexists, DropAction.sqlClause_inj haction⟩

theorem Unique.sqlOnTable_inj {s : Strategy} (hs : s.quoteIdentifiers = true) {u w : Unique}
    (hu : ¬ Unnamed u.columnNames) (hw : ¬ Unnamed w.columnNames)
    (h : (Constraint.unique u).sqlOnTable s = (Constraint.unique w).sqlOnTable s) :
    Value.sameItems u.columnNames w.columnNames = true ∧
      u.nullsDistinct.isTrue = w.nullsDistinct.isTrue := by
  have hopening : ("(" : String).toList = ['('] := rfl
  have hends : EndsNames (")" : String).toList := endsNames_cons (by decide) (by decide) []
  have hchars := congrArg String.toList h
  simp only [Constraint.sqlOnTable, String.toList_append, List.append_assoc,
    apply_ite String.toList, String.toList_empty, hopening] at hchars
  simp only [← ite_not (_ = true)] at hchars
  obtain ⟨hnulls, hcolumns⟩ := s.apart_nullsNotDistinct.option_append_inj
    (List.prefix_append _ _) (List.prefix_append _ _) (List.append_cancel_left hchars)
  obtain ⟨hnames, -⟩ := Strategy.nameList_append_inj hs hu hw hends hends
    (List.append_cancel_left hcolumns)
  exact ⟨hnames, Bool.eq_iff_iff.mpr (not_iff_not.mp hnulls)⟩

theorem PrimaryKey.sqlOnTable_inj {s : Strategy} (hs : s.quoteIdentifiers = true)
    {p q : PrimaryKey} (hp : ¬ Unnamed p.columnNames) (hq : ¬ Unnamed q.columnNames)
    (h : (Constraint.primaryKey p).sqlOnTable s = (Constraint.primaryKey q).sqlOnTable s) :
    Value.sameItems p.columnNames q.columnNames = true := by
  have hends : EndsNames (")" : String).toList := endsNames_cons (by decide) (by decide) []
  have hchars := congrArg String.toList h
  simp only [Constraint.sqlOnTable, String.toList_append, List.append_assoc] at hchars
  exact (Strategy.nameList_append_inj hs hp hq hends hends (List.append_cancel_left hchars)).1

theorem ForeignKey.sqlOnTable_inj {s : Strategy} (hs : s.quoteIdentifiers = true)
    {f g : ForeignKey} (hf : ¬ (Constraint.foreignKey f).MalformedOnTable)
    (hg : ¬ (Constraint.foreignKey g).MalformedOnTable)
    (h : (Constraint.foreignKey f).sqlOnTable s = (Constraint.foreignKey g).sqlOnTable s) :
    Value.sameItems f.columnNames g.columnNames = true ∧ f.refTable = g.refTable ∧
      Value.sameItems f.refColumns g.refColumns = true ∧
      SameAction f.onUpdate g.onUpdate ∧ SameAction f.onDelete g.onDelete := by
  obtain ⟨hfnames, hfrefs⟩ := not_or.mp hf
  obtain ⟨hgnames, hgrefs⟩ := not_or.mp hg
  have hends (x : List Char) : EndsNames ((") " : String).toList ++ x) :=
    endsNames_cons (by decide) (by decide) _
  have hchars := congrArg String.toList h
  simp only [Constraint.sqlOnTable, String.toList_append, List.append_assoc] at hchars
  obtain ⟨hnames, hrest⟩ := Strategy.nameList_append_inj hs hfnames hgnames (hends _) (hends _)
    (List.append_cancel_left hchars)
  have hreferences := String.toList_inj.mp (List.append_cancel_left hrest)
  exact ⟨hnames, sqlReferences_inj hs hfrefs hgrefs hreferences⟩

/-! ### Strict rendering -/

namespace Visitor

/-- **With identifiers in quotes, SQL determines the node.**  On every built-in engine and every
version that it accepts, in either letter case: two table drops for which strict rendering writes
the same SQL have the same tables, flag and action, and two unique, primary or foreign keys of a
table the same columns, flag, referenced table and columns, and actions. -/
theorem strict_sql_injective {engine version : Value} {s : Strategy} {v : Visitor}
    (hv : Visitor.find engine version s = .ok v) (hs : s.quoteIdentifiers = true) :
    (∀ (d e : DropTable) (sql : String) (os os' : List Omission),
      (v.strict.render (.dropTable d) .statement).outcome = .rendered sql os →
      (v.strict.render (.dropTable e) .statement).outcome = .rendered sql os' →
      Value.sameItems d.tableNames e.tableNames = true ∧
        d.ifExists.isTrue = e.ifExists.isTrue ∧ d.action = e.action) ∧
    (∀ (u w : Unique) (sql : String) (os os' : List Omission),
      (v.strict.render (.constraint (.unique u)) .table).outcome = .rendered sql os →
      (v.strict.render (.constraint (.unique w)) .table).outcome = .rendered sql os' →
      Value.sameItems u.columnNames w.columnNames = true ∧
        u.nullsDistinct.isTrue = w.nullsDistinct.isTrue) ∧
    (∀ (p q : PrimaryKey) (sql : String) (os os' : List Omission),
      (v.strict.render (.constraint (.primaryKey p)) .table).outcome = .rendered sql os →
      (v.strict.render (.constraint (.primaryKey q)) .table).outcome = .rendered sql os' →
      Value.sameItems p.columnNames q.columnNames = true) ∧
    ∀ (f g : ForeignKey) (sql : String) (os os' : List Omission),
      (v.strict.render (.constraint (.foreignKey f)) .table).outcome = .rendered sql os →
      (v.strict.render (.constraint (.foreignKey g)) .table).outcome = .rendered sql os' →
      Value.sameItems f.columnNames g.columnNames = true ∧ f.refTable = g.refTable ∧
        Value.sameItems f.refColumns g.refColumns = true ∧
        SameAction f.onUpdate g.onUpdate ∧ SameAction f.onDelete g.onDelete := by
  obtain ⟨htarget, hstrategy⟩ := Visitor.of_find hv
  have hbuiltin := Target.mem_builtin_of_find htarget
  -- what is rendered strictly is well-formed and has the text of its template
  have hrendered {n : Node} {p : Position} (htext : n.hasTextDefaults = true) (hslot : n.Stands p)
      {sql : String} {os : List Omission}
      (h : (v.strict.render n p).outcome = .rendered sql os) :
      sql = n.sql s p ∧ ¬ n.HasMalformedPart p := by
    have hmalformed := not_malformedAt_of_strict_renders hbuiltin htext h
    rw [hslot.malformedAt_iff] at hmalformed
    exact ⟨hstrategy ▸ sql_of_strict_renders hbuiltin htext h, hmalformed⟩
  refine ⟨?_, ?_, ?_, ?_⟩
  · intro d e sql os os' h h'
    obtain ⟨hd, hdn⟩ := hrendered rfl (.dropTable d) h
    obtain ⟨he, hen⟩ := hrendered rfl (.dropTable e) h'
    exact DropTable.sql_inj hs hdn hen (hd.symm.trans he)
  · intro u w sql os os' h h'
    obtain ⟨hu, hun⟩ := hrendered rfl (.tableConstraint (.unique u)) h
    obtain ⟨hw, hwn⟩ := hrendered rfl (.tableConstraint (.unique w)) h'
    exact Unique.sqlOnTable_inj hs hun hwn (hu.symm.trans hw)
  · intro p q sql os os' h h'
    obtain ⟨hp, hpn⟩ := hrendered rfl (.tableConstraint (.primaryKey p)) h
    obtain ⟨hq, hqn⟩ := hrendered rfl (.tableConstraint (.primaryKey q)) h'
    exact PrimaryKey.sqlOnTable_inj hs hpn hqn (hp.symm.trans hq)
  · intro f g sql os os' h h'
    obtain ⟨hf, hfn⟩ := hrendered rfl (.tableConstraint (.foreignKey f)) h
    obtain ⟨hg, hgn⟩ := hrendered rfl (.tableConstraint (.foreignKey g)) h'
    exact ForeignKey.sqlOnTable_inj hs hfn hgn (hf.symm.trans hg)

/-- A foreign key whose names hold a quote, a separator, a parenthesis and the words of a clause:
only a SQL type in the place of its name gives the same SQL, and it is the same value. -/
theorem strict_sql_injective_postgresql :
    let s : Strategy := { keywordCase := .upper, quoteIdentifiers := true }
    let v : Visitor := ⟨⟨.postgresql, ⟨[15]⟩⟩, s⟩
    let f : ForeignKey :=
      { columnNames := [.text "a\", \"b", .text "c"], refTable := "u\" (x) ON DELETE CASCADE"
        refColumns := [.text "a,b", .text "integer"]
        onDelete := some ⟨.setNull, [.text "c)"]⟩ }
    let g : ForeignKey := { f with refColumns := [.text "a,b", .sqlType .integer] }
    let sql : String :=
      "FOREIGN KEY (\"a\"\", \"\"b\", \"c\") REFERENCES \"u\"\" (x) ON DELETE CASCADE\" " ++
        "(\"a,b\", \"integer\") ON DELETE SET NULL (\"c)\")"
    Visitor.find (.text "postgresql") (.text "15.4") s = .ok v ∧ s.quoteIdentifiers = true ∧
      (∃ os, (v.strict.render (.constraint (.foreignKey f)) .table).outcome = .rendered sql os) ∧
      (∃ os, (v.strict.render (.constraint (.foreignKey g)) .table).outcome = .rendered sql os) ∧
      Value.sameItems f.refColumns g.refColumns = true ∧ SameAction f.onDelete g.onDelete := by
  intro s v f g sql
  have hv : Visitor.find (.text "postgresql") (.text "15.4") s = .ok v := rfl
  have htarget := Target.mem_builtin_of_find (Visitor.of_find hv).1
  have hrendered {k : ForeignKey}
      (hclear : v.target.hurdles (.constraint (.foreignKey k)) .table = [])
      (htemplate : (Node.constraint (.foreignKey k)).sql s .table = sql) :
      ∃ os, (v.strict.render (.constraint (.foreignKey k)) .table).outcome = .rendered sql os := by
    obtain ⟨written, os, h⟩ := (strict_renders_iff htarget rfl .table).mpr hclear
    have hwritten := sql_of_strict_renders htarget rfl h
    exact ⟨os, htemplate ▸ hwritten ▸ h⟩
  obtain ⟨os, hf⟩ := hrendered (k := f) rfl (by decide +kernel)
  obtain ⟨os', hg⟩ := hrendered (k := g) rfl (by decide +kernel)
  obtain ⟨-, -, hcolumns, -, haction⟩ :=
    (strict_sql_injective hv rfl).2.2.2 f g sql os os' hf hg
  exact ⟨hv, rfl, ⟨os, hf⟩, ⟨os', hg⟩, hcolumns, haction⟩

end Visitor

end SqlDialect
