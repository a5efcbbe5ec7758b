/-!
# Write modes

What a writing session does with a row.
-/

namespace SqlScribe

/-- Append the row, change the stored rows of its key, or change them and append if there is none. -/
inductive WriteMode
  | insert
  | update
  | insertOrUpdate
deriving DecidableEq

namespace WriteMode

/-- The mode as a message names it. -/
def title : WriteMode → String
  | insert => "Insert"
  | update => "Update"
  | insertOrUpdate => "InsertOrUpdate"

/-- The mode's name in a document. -/
def name : WriteMode → String
  | insert => "insert"
  | update => "update"
  | insertOrUpdate => "insert_or_update"

def ofName? (s : String) : Option WriteMode :=
  [insert, update, insertOrUpdate].find? (·.name == s)

end WriteMode

end SqlScribe
