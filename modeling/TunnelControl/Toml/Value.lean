/-!
# Values of a settings file

`Toml` is a value as a document gives it.  Numbers with a fraction and points in time occur in documents,
but no setting takes one, so that only their text is kept.
-/

namespace TunnelControl

inductive Toml
  | text (s : String)
  | integer (n : Int)
  | float (written : String)
  | time (written : String)
  | boolean (b : Bool)
  | array (items : List Toml)
  | table (entries : List (String × Toml))
  deriving Repr, Inhabited

namespace Toml

/-- the value of a key -/
def lookup (key : String) (entries : List (String × Toml)) : Option Toml :=
  (entries.find? fun entry => entry.1 == key).map (·.2)

theorem lookup_nil (key : String) : lookup key [] = none := rfl

theorem lookup_cons (key k : String) (v : Toml) (entries : List (String × Toml)) :
    lookup key ((k, v) :: entries) = if k == key then some v else lookup key entries := by
  unfold lookup
  rw [List.find?_cons]
  cases k == key <;> rfl

/-- a point in time is, to a reader of tables, a table with one private key -/
def entries? : Toml → Option (List (String × Toml))
  | table entries => some entries
  | time _ => some []
  | _ => none

/-- the limits of whole numbers -/
def integerMin : Int := -0x8000000000000000
def integerMax : Int := 0x7FFFFFFFFFFFFFFF

end Toml

end TunnelControl
