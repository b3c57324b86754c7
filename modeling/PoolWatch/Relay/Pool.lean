import PoolWatch.Relay.Client

/-! # A pool of relay connections

    Each worker of the pool owns one connection, and the workers take turns.
    A pool without workers is closed. -/

namespace PoolWatch.Relay

/-- A worker: its network, and the state of its client. -/
structure Worker where
  link : Link
  client : Client

/-- The workers, the next one in front. -/
abbrev Pool := List Worker

namespace Pool

/-- Hands a transaction to the worker whose turn it is. -/
def post (access : Access) (pool : Pool) (tx : Transaction) : Submission × Pool :=
  match pool with
  | [] => (.error (.relay .poolClosed), [])
  | worker :: rest =>
    let (answer, client) := (Relay.post access worker.link tx).run.run worker.client
    (answer.map fun signature => ⟨.paidRelay, signature⟩, rest ++ [{ worker with client }])

/-- The pool after some transactions, which come newest first. -/
def after (access : Access) (pool : Pool) : List Transaction → Pool
  | [] => pool
  | tx :: past => (post access (pool.after access past) tx).2

/-- The submitter of the paid relay's channel. -/
def submitter (access : Access) (pool : Pool) : Submitter := fun past tx =>
  (post access (pool.after access past) tx).1

end Pool

end PoolWatch.Relay
