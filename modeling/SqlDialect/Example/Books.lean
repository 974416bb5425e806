import SqlDialect.Node.Basic

/-!
# A schema of books

The running example: authors, their books, and the statement that drops both tables.
-/

namespace SqlDialect.Books

/-- The table of authors. -/
def authors : CreateTable where
  tableName := "authors"
  ifNotExists := .bool true
  columns := [
    { name := "id", dataType := "integer", nullable := .bool false
      constraints := [.primaryKey {}] },
    { name := "name", dataType := "text", nullable := .bool false },
    { name := "email", dataType := "text", constraints := [.unique {}] }]

/-- The table of books; the author of a book may be unknown. -/
def books : CreateTable where
  tableName := "books"
  ifNotExists := .bool true
  columns := [
    { name := "id", dataType := "integer", nullable := .bool false
      constraints := [.primaryKey {}] },
    { name := "author_id", dataType := "integer" },
    { name := "title", dataType := "text", nullable := .bool false },
    { name := "pages", dataType := "integer", default := .text "0"
      constraints := [.check ⟨"pages >= 0"⟩] },
    { name := "isbn", dataType := "text" }]
  constraints := [
    .unique { columnNames := [.text "isbn"], nullsDistinct := .bool false },
    .foreignKey {
      columnNames := [.text "author_id"], refTable := "authors", refColumns := [.text "id"]
      onDelete := some ⟨.setNull, [.text "author_id"]⟩ }]

/-- The statements that create the schema. -/
def schema : List Node :=
  [.createTable authors, .createTable books]

/-- The statement that drops the schema. -/
def teardown : DropTable where
  tableNames := [.text "books", .text "authors"]
  action := some .cascade

end SqlDialect.Books
