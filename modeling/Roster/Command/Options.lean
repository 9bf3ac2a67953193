import Roster.Command.Count
import Roster.Listing.Format
/-!
# The options of a listing

Each option takes a value. Two of them, which redirect the cluster API, are known but not
advertised.
-/

namespace Roster

inductive ListOption where
  | output
  | page
  | limit
  | search
  | clusterApiUrl
  | accessToken
  deriving Repr, DecidableEq

namespace ListOption

def all : List ListOption := [output, page, limit, search, clusterApiUrl, accessToken]

def name : ListOption → String
  | output => "output"
  | page => "page"
  | limit => "limit"
  | search => "search"
  | clusterApiUrl => "cluster-mgmt-api-url"
  | accessToken => "access-token"

/-- What stands for the value in a description. -/
def placeholder : ListOption → String
  | output => "format"
  | page => "PAGE"
  | limit => "LIMIT"
  | search => "text"
  | clusterApiUrl => "CLUSTER_MGMT_API_URL"
  | accessToken => "ACCESS_TOKEN"

/-- An option with what stands for its value. -/
def written (o : ListOption) : String := "--" ++ o.name ++ " <" ++ o.placeholder ++ ">"

def ofName? (name : List Char) : Option ListOption := all.find? (·.name.toList = name)

/-- The option that has a letter as well. -/
def ofLetter? (c : Char) : Option ListOption := if c = 'o' then some output else none

/-! ### Description -/

/-- The choices of formats. -/
def choices : String :=
  "[possible values: " ++ ", ".intercalate ([Format.table, .json, .yaml].map Format.name) ++ "]"

/-- What an option does; nothing is said of an option that is not advertised. -/
def about? : ListOption → Option String
  | output => some "Format to display the instances in; omit for a table"
  | page => some "Page of results to display"
  | limit => some "Number of instances per page"
  | search => some
      "Only show instances whose name, owner, cloud provider, region or status contains this text"
  | clusterApiUrl | accessToken => none

/-- What is said of the values of an option. -/
def remark? : ListOption → Option String
  | output => some choices
  | page => some ("[default: " ++ toString Count.firstPage.val ++ "]")
  | limit => some ("[default: " ++ toString Count.defaultLimit.val ++ "]")
  | search | clusterApiUrl | accessToken => none

/-! ### Groups -/

/-- The options that are described as one choice: the format alone, and all others. -/
def group : ListOption → List ListOption
  | output => [output]
  | _ => [page, limit, search, clusterApiUrl, accessToken]

/-- A group as the choice that it is. -/
def groupText (options : List ListOption) : String :=
  "<" ++ "|".intercalate (options.map written) ++ ">"

end ListOption

end Roster
