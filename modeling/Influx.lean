import Influx.Go.Basic
import Influx.Go.Path
import Influx.Flux.Semantic
import Influx.Storage.Datatypes
import Influx.Storage.Predicate
import Influx.Storage.Merge
import Influx.Storage.Semantics
import Influx.Storage.Operators
import Influx.Inmem.Service
import Influx.Inmem.Refinement
import Influx.Inmem.Concurrent
import Influx.Inmem.FindMany
import Influx.Cmd.Template
import Influx.Cmd.Refs
import Influx.Cmd.Apply
import Influx.Cmd.Export
import Influx.Cmd.ExportRun
import Influx.Cmd.Stacks
import Influx.Cmd.DiffPrinter
import Influx.Authorizer.Basic
import Influx.Authorizer.Services
import Influx.Authorizer.Label
