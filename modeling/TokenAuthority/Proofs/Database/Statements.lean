import Mathlib.Logic.Function.Basic
import TokenAuthority.Database.Query
import TokenAuthority.Proofs.Database.Rows

/-!
# The columns that statements name

What an insertion binds and what a reply shows are matched by the names of columns alone, as they stand in the texts of
the two statements. A record is read again from the columns that show what its insertion bound.
-/

namespace TokenAuthority

open Database

namespace Database

/-! ### Texts -/

/-- The words of a text: its longest runs of letters and underscores. -/
def words (text : String) : List String :=
  ((text.toList.splitOnP fun c => !(c.isAlpha || c == '_')).filter (· ≠ [])).map String.ofList

/-- The columns that an insertion names before its values. -/
def insertedColumns (text : String) : List String := ((words text).drop 3).takeWhile (· ≠ "VALUES")

/-- The columns that a statement selects, or returns of the rows that it changes. -/
def shownColumns (text : String) : List String :=
  (((words text).dropWhile (· ∉ ["SELECT", "RETURNING"])).drop 1).takeWhile (· ≠ "FROM")

namespace Query

/-- What an insertion binds, by the columns that it names. -/
def bound (insert : Query) : Row := (insertedColumns insert.text).zip insert.parameters

/-- A row of the columns that a statement shows, in their order. -/
def showing (select : Query) (values : String → Value) : Row :=
  (shownColumns select.text).map fun column => (column, values column)

variable {t : Token} {g : Grant} {p : Profile} {account key : String}

theorem toList_insertion (table : String) (columns : List String) : (insertion table columns).toList =
    "INSERT INTO ".toList ++ table.toList ++ " (".toList ++ ", ".toList.intercalate (columns.map String.toList) ++
      ") VALUES (".toList ++ ", ".toList.intercalate
        ((List.range columns.length).map fun i => ("$" ++ toString (i + 1)).toList) ++ ")".toList := by
  show (_ ++ _ ++ _ ++ commaSeparated _ ++ _ ++ commaSeparated _ ++ _ : String).toList = _
  simp only [commaSeparated, String.toList_append, String.toList_intercalate, List.map_map, Function.comp_def]

theorem words_insertToken : words (insertToken t).text = ["INSERT", "INTO", "auth_tokens"] ++ Token.columns ++
    ["VALUES", "ON", "CONFLICT", "access_token", "DO", "NOTHING"] := by
  show words (insertion "auth_tokens" Token.columns ++ " ON CONFLICT (access_token) DO NOTHING") = _
  rw [words, String.toList_append, toList_insertion]
  decide +kernel

theorem words_insertGrant :
    words (insertGrant g).text = ["INSERT", "INTO", "authorization_codes"] ++ Grant.columns ++ ["VALUES"] := by
  show words (insertion "authorization_codes" Grant.columns) = _
  rw [words, toList_insertion]
  decide +kernel

theorem text_saveProfile : (saveProfile account p).text = insertion "user_providers" ("user_id" :: Profile.columns) ++
    " ON CONFLICT (user_id, provider_id) DO UPDATE SET " ++
    "provider_user_id = EXCLUDED.provider_user_id, email = EXCLUDED.email, " ++
    "fields = EXCLUDED.fields, updated_at = NOW()" := rfl

theorem words_saveProfile : words (saveProfile account p).text =
    ["INSERT", "INTO", "user_providers", "user_id"] ++ Profile.columns ++
      ["VALUES", "ON", "CONFLICT", "user_id", "provider_id", "DO", "UPDATE", "SET", "provider_user_id", "EXCLUDED",
        "provider_user_id", "email", "EXCLUDED", "email", "fields", "EXCLUDED", "fields", "updated_at", "NOW"] := by
  rw [text_saveProfile, words]
  simp only [toList_insertion, String.toList_append]
  decide +kernel

theorem bound_insertToken : (insertToken t).bound = Token.columns.zip t.values := by
  rw [bound, insertedColumns, words_insertToken]
  rfl

theorem bound_insertGrant : (insertGrant g).bound = Grant.columns.zip g.values := by
  rw [bound, insertedColumns, words_insertGrant]
  rfl

theorem bound_saveProfile :
    (saveProfile account p).bound = ("user_id" :: Profile.columns).zip (.text account :: p.values) := by
  rw [bound, insertedColumns, words_saveProfile]
  rfl

theorem shownColumns_tokenByAccess : shownColumns (tokenByAccess key).text = Token.columns := by
  show shownColumns ("SELECT " ++ commaSeparated Token.columns ++ " FROM auth_tokens WHERE access_token = $1") = _
  simp only [shownColumns, words, commaSeparated, String.toList_append, String.toList_intercalate]
  decide +kernel

theorem shownColumns_tokenByRefresh : shownColumns (tokenByRefresh key).text = Token.columns := by
  show shownColumns ("SELECT " ++ commaSeparated Token.columns ++ " FROM auth_tokens WHERE refresh_token = $1") = _
  simp only [shownColumns, words, commaSeparated, String.toList_append, String.toList_intercalate]
  decide +kernel

theorem shownColumns_takeGrant : shownColumns (takeGrant key).text = Grant.columns := by
  show shownColumns ("UPDATE authorization_codes SET used_at = NOW() WHERE code = $1 AND used_at IS NULL " ++
    "RETURNING " ++ commaSeparated Grant.columns) = _
  simp only [shownColumns, words, commaSeparated, String.toList_append, String.toList_intercalate]
  decide +kernel

theorem shownColumns_profilesOf : shownColumns (profilesOf key).text = Profile.columns := by
  show shownColumns ("SELECT " ++ commaSeparated Profile.columns ++ " FROM user_providers WHERE user_id = $1") = _
  simp only [shownColumns, words, commaSeparated, String.toList_append, String.toList_intercalate]
  decide +kernel

end Query

/-! ### Rows -/

theorem Row.get_map {columns : List String} {column : String} (values : String → Value) (mem : column ∈ columns) :
    Row.get (columns.map fun column => (column, values column)) column = values column := by
  induction columns with
  | nil => cases mem
  | cons first columns ih =>
    by_cases same : column = first
    · simp [Row.get, same]
    · have rest := ih ((List.mem_cons.1 mem).resolve_left same)
      rw [← rest]
      simp [Row.get, List.lookup_cons, beq_false_of_ne same]

theorem Query.map_get_showing {select : Query} {columns : List String} (values : String → Value)
    (shows : shownColumns select.text = columns) : columns.map (select.showing values).get = columns.map values := by
  rw [showing, shows]
  exact List.map_congr_left fun column mem => Row.get_map values mem

end Database

variable {select : Query} {row : Row}

/-- The row of a token shows what its insertion bound. -/
theorem Token.isRow_showing (t : Token) (shows : shownColumns select.text = columns) :
    t.IsRow (select.showing (Query.insertToken t).bound.get) := by
  rw [IsRow, Query.map_get_showing _ shows, Query.bound_insertToken]
  exact Row.map_get_zip (by decide) rfl

/-- A grant is read again as it is stored. The time at which it was used is its row's, whatever that is. -/
theorem Grant.ofRow?_eq {g : Grant} (others : columns.dropLast.map row.get = g.values.dropLast) :
    Grant.ofRow? row = some { g with
      createdAt := g.createdAt.stored, expiresAt := g.expiresAt.stored, usedAt := row.time? "used_at" } := by
  simp only [columns, values, List.dropLast, List.map_cons, List.map_nil, List.cons.injEq] at others
  obtain ⟨code, client, owner, scope, created, expires, -⟩ := others
  simp [ofRow?, Row.text?_of_get (some _) code, Row.text?_of_get (some _) client,
    Row.text?_of_get (some _) owner, Row.text?_of_get _ scope, Row.time?_of_get (some _) created,
    Row.time?_of_get (some _) expires]

theorem Grant.map_get_showing {g : Grant} (used : Value) (shows : shownColumns select.text = columns) :
    columns.dropLast.map (select.showing (Function.update (Query.insertGrant g).bound.get "used_at" used)).get =
      g.values.dropLast := by
  have values := Query.map_get_showing (Function.update (Query.insertGrant g).bound.get "used_at" used) shows
  have bound : columns.map (Query.insertGrant g).bound.get = g.values := by
    rw [Query.bound_insertGrant]
    exact Row.map_get_zip (by decide) rfl
  rw [List.map_dropLast, values, ← bound, ← List.map_dropLast, ← List.map_dropLast]
  exact List.map_congr_left fun column mem => Function.update_of_ne (ne_of_mem_of_not_mem mem (by decide)) _ _

/-- A profile is read again with the fields that the text of its own fields gives. -/
theorem Profile.ofRow?_showing (account : String) (p : Profile) (shows : shownColumns select.text = columns) :
    Profile.ofRow? (select.showing (Query.saveProfile account p).bound.get) =
      (Json.read (Json.object p.fields).render.toList).toOption.map fun fields =>
        { p with fields := fieldsOf fields } := by
  have bound : ("user_id" :: columns).map (Query.saveProfile account p).bound.get = .text account :: p.values := by
    rw [Query.bound_saveProfile]
    exact Row.map_get_zip (by decide) rfl
  have isRow := (Query.map_get_showing (Query.saveProfile account p).bound.get shows).trans (List.cons.inj bound).2
  simp only [columns, values, List.map_cons, List.map_nil, List.cons.injEq] at isRow
  obtain ⟨provider, subject, email, fields, -⟩ := isRow
  simp only [ofRow?, Row.text?_of_get (some _) provider, Row.text?_of_get (some _) subject,
    Row.text?_of_get _ email, Row.json?, fields, Value.ofJson]
  cases Json.read (Json.object p.fields).render.toList <;> rfl

end TokenAuthority
