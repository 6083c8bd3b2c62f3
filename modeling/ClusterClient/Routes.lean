import ClusterClient.Http

namespace ClusterClient

/-- One answer of a route; a status of zero drops the connection. -/
structure Routes.Answer where
  status : Nat := 200
  body : String
  deriving DecidableEq, Repr

/-- A server given by its answers: for each method and target those that it gives in turn, the last
one again and again. -/
abbrev Routes := List (String × List Routes.Answer)

namespace Routes

/-- What routes go by. -/
def keyOf (request : Http.Request) : String := request.method.name ++ " " ++ request.target

/-- Some answers have no body, whatever the route says. -/
def respond (answer : Answer) : Option Http.Response :=
  if answer.status = 0 then none
  else if answer.status = 204 ∨ answer.status = 304 then some ⟨answer.status, ""⟩
  else some ⟨answer.status, answer.body⟩

def notFound : Answer := ⟨404, "404 page not found"⟩

/-- The answer to a request after some others. -/
def answer (routes : Routes) (earlier : List Http.Request) (request : Http.Request) :
    Option Http.Response :=
  match routes.lookup (keyOf request) with
  | none => respond notFound
  | some answers =>
    let turn := (earlier.filter fun other => keyOf other == keyOf request).length
    respond ((answers[turn]?).or answers.getLast? |>.getD notFound)

/-- The server of some routes. Encrypted connections do not reach it. -/
def server (routes : Routes) : Server where
  receives url := !url.secure
  answer := routes.answer

end Routes

end ClusterClient
