/-
  TypeScript types of GraphQL scalars.

  A mapping that the project configures comes first, then the five standard scalars; any other
  scalar has the type `unknown`.
-/
import QueryTypings.OrderedMap

namespace QueryTypings.Declaration

/-- Names of scalars with their TypeScript types. -/
abbrev ScalarTypes := OrderedMap String

/-- The types of the standard scalars. -/
def standardScalarTypes : ScalarTypes :=
  [("ID", "string"), ("String", "string"), ("Boolean", "boolean"), ("Int", "number"),
    ("Float", "number")]

/-- The type of a scalar about which nothing is known. -/
def unknownScalarType : String := "unknown"

/-- The TypeScript type of a scalar. -/
def scalarType (scalars : ScalarTypes) (name : String) : String :=
  ((OrderedMap.get? name scalars).or (OrderedMap.get? name standardScalarTypes)).getD
    unknownScalarType

end QueryTypings.Declaration
