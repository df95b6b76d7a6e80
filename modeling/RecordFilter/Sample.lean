import RecordFilter.Host
import RecordFilter.Schema
/-!
# Sample people

Four people and the companies they work for, with the schema that declares them.  The command line
runs filters on them.
-/

namespace RecordFilter.Sample

/-- An employer. -/
structure Company where
  /-- The name. -/
  name : String
  /-- The number of employees. -/
  employees : Int64
deriving DecidableEq

/-- A person. -/
structure Person where
  /-- The full name. -/
  name : String
  /-- The age in years. -/
  age : Int64
  /-- The mail address, if there is one. -/
  email : Option String
  /-- The yearly salary. -/
  salary : Float
  /-- The person works at present. -/
  active : Bool
  /-- The integer of the role. -/
  role : Int64
  /-- The employer, if there is one. -/
  company : Option Company
deriving DecidableEq

/-- The roles of people. -/
def roles : EnumType := ⟨"Role", [("Engineer", 0), ("Manager", 1), ("Director", 2)]⟩

/-- The number of the record type of people. -/
def personId : RecordId := 0

/-- The number of the record type of companies. -/
def companyId : RecordId := 1

/-- The record type of people. -/
def personType : RecordType where
  name := "Person"
  members :=
    [⟨"Name", .property, .str⟩, ⟨"Age", .property, .int⟩, ⟨"Email", .property, .optional .str⟩,
     ⟨"Salary", .property, .float⟩, ⟨"Active", .property, .bool⟩, ⟨"Role", .property, .enum 0⟩,
     ⟨"Company", .property, .record companyId⟩]
  methods := []

/-- The record type of companies. -/
def companyType : RecordType where
  name := "Company"
  members := [⟨"Name", .property, .str⟩, ⟨"Employees", .property, .int⟩]
  methods := []

/-- The schema of people and companies. -/
def schema : Schema := .ofLists [roles] [personType, companyType]

/-- A record of the samples. -/
inductive Record where
  | person (p : Person)
  | company (c : Company)
deriving DecidableEq

/-- A text that may be missing. -/
def optionalText : Option String → Value Record
  | some s => .str s
  | none => .null

/-- A company that may be missing. -/
def optionalCompany : Option Company → Value Record
  | some c => .record (.company c)
  | none => .null

/-- The members of people and companies. -/
def member : Record → String → Value Record
  | .person p, "Name" => .str p.name
  | .person p, "Age" => .int p.age
  | .person p, "Email" => optionalText p.email
  | .person p, "Salary" => .float p.salary
  | .person p, "Active" => .bool p.active
  | .person p, "Role" => .int p.role
  | .person p, "Company" => optionalCompany p.company
  | .company c, "Name" => .str c.name
  | .company c, "Employees" => .int c.employees
  | _, _ => .null

/-- The samples have members only. -/
def host : Host Record where
  member := member
  invoke _ _ _ := .null

/-- The sample people. -/
def people : List Person :=
  [{ name := "John Doe", age := 34, email := some "john@acme.test", salary := 92000.0
     active := true, role := 0, company := some ⟨"Acme Corp", 1200⟩ },
   { name := "Jane Doe", age := 41, email := some "jane@globex.test", salary := 135500.0
     active := true, role := 2, company := some ⟨"Globex", 80⟩ },
   { name := "Sam Smith", age := 17, email := none, salary := 0.0
     active := false, role := 0, company := none },
   { name := "Ana Lima", age := 29, email := none, salary := 78250.5
     active := true, role := 1, company := some ⟨"Acme Corp", 1200⟩ }]

end RecordFilter.Sample
