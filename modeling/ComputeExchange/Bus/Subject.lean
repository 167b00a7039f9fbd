/-!
# Subjects

A subject is a text whose tokens are the parts between its dots.  In a pattern the token `*` stands
for any one token, and `>` as the last token for one or more.
-/

namespace ComputeExchange.Subject

/-- The parts of some characters between dots; there is always at least one. -/
def split : List Char → List (List Char)
  | [] => [[]]
  | c :: rest =>
    if c = '.' then [] :: split rest
    else
      match split rest with
      | first :: more => (c :: first) :: more
      | [] => [[c]]

/-- The tokens of a subject or a pattern. -/
def tokens (s : String) : List (List Char) := split s.toList

/-- Whether the tokens of a pattern match those of a subject. -/
def tokensMatch : List (List Char) → List (List Char) → Bool
  | [], [] => true
  | p :: pattern, t :: subject =>
    if p = ['>'] then pattern.isEmpty
    else if p = ['*'] then tokensMatch pattern subject
    else if p = t then tokensMatch pattern subject
    else false
  | _, _ => false

/-- Whether a pattern matches a subject. -/
def isMatch (pattern subject : String) : Bool := tokensMatch (tokens pattern) (tokens subject)

/-- The subject on which a provider is told of its jobs. -/
def dispatch (provider : String) : String := s!"jobs.dispatch.{provider}"

/-- The subject on which jobs are listed. -/
def jobsQuery : String := "jobs.query"

/-- The subject on which providers are listed. -/
def nodesQuery : String := "nodes.query"

/-- The subject on which another delivery of a job is asked for. -/
def redispatch : String := "jobs.redispatch"

/-- The subject on which workers report. -/
def status : String := "jobs.status"

/-- The subject on which the standing of a provider is asked for. -/
def reputationQuery : String := "reputation.query"

end ComputeExchange.Subject
