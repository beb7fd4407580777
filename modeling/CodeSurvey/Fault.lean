import CodeSurvey.Store.Basic
import CodeSurvey.System.FileTree
import CodeSurvey.Url.Error

/-! What can go wrong in a survey, each cause with its text and the texts of what lies behind it. -/

namespace CodeSurvey

inductive Fault where
  | storage (e : StoreError)
  | system (e : SystemError)
  | request (e : RequestError)
  | search (text : String)
  | gitMissing (program : String)
  | analyzerMissing (tool : String)
  | clone (name reason : String)
  | analyzer (text : String)
  | outcome (text : String)
  | waitTooLong
deriving DecidableEq, Repr

namespace Fault

def message : Fault → String
  | .storage e => "Storage error: " ++ e.message
  | .system e => "IO error: " ++ e.message
  | .request e => "HTTP error: " ++ e.message
  | .search text => "Search error: " ++ text
  | .gitMissing program => "git not found: " ++ program
  | .analyzerMissing tool => "Analyzer not found: " ++ tool
  | .clone name reason => "Failed to clone '" ++ name ++ "': " ++ reason
  | .analyzer text => "Analyzer error: " ++ text
  | .outcome text => "Invalid mining outcome: " ++ text
  | .waitTooLong => "Search error: the wait for the rate limit is too long"

def chain : Fault → List String
  | .storage e => (Fault.storage e).message :: e.message :: e.causes
  | .system e => [(Fault.system e).message, e.message]
  | .request e => (Fault.request e).message :: e.message :: e.causes
  | e => [e.message]

end Fault

end CodeSurvey
