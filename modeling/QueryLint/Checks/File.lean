import QueryLint.Checks.Basic
import QueryLint.Sql.Vocabulary.File

/-! Checks of remote files, of data that moves to the cloud, and of exports. -/
namespace QueryLint.Checks
set_option autoImplicit false
open Sql

/-! ## Remote files -/

def remoteGlobAdvice : Advice where
  rule := "glob-many-files"
  severity := .info
  title := "Recursive glob over remote storage"
  message := "A ** glob makes DuckDB list every object under the prefix before reading anything. "
    ++ "On object stores with many files the listing alone can take a long time."
  suggestion := "Narrow the glob to the partitions you need "
    ++ "(s3://bucket/events/year=2024/*.parquet) or keep a manifest of file paths."
  category := "network"

def recursiveGlob (sql : Text) : List Finding := adviseFirst remoteGlob remoteGlobAdvice sql

def remoteSelectStarAdvice : Advice where
  rule := "remote-file-select-star"
  severity := .error
  title := "SELECT * from remote file"
  message := "Reading all columns from a remote Parquet or CSV file downloads far more data than "
    ++ "needed over the network. This is extremely slow for wide files."
  suggestion := "Select only the columns you need. For remote Parquet, DuckDB prunes columns and "
    ++ "pushes filters down, but only if the query lets it."
  category := "network"

def remoteSelectStar (sql : Text) : List Finding :=
  if remoteSource.occursIn sql then adviseFirst selectStar remoteSelectStarAdvice sql else []

def remoteWithoutFilterAdvice : Advice where
  rule := "read-remote-no-filter"
  severity := .warning
  title := "Remote file read without a filter"
  message := "Without a WHERE clause DuckDB cannot use Parquet row-group statistics to skip data, "
    ++ "so the whole remote file is downloaded."
  suggestion := "Add a WHERE clause on a column the file is sorted or partitioned by."
  category := "network"

/-- A remote file that is read in a text without any WHERE. -/
def remoteWithoutFilter (sql : Text) : List Finding :=
  if whereKeyword.occursIn sql then [] else adviseFirst remoteSource remoteWithoutFilterAdvice sql

def multipleRemoteScansAdvice (count : Nat) : Advice where
  rule := "multiple-remote-scans"
  severity := .warning
  title := s!"{count} remote file scans"
  message := s!"This statement reads remote files {count} times. Every scan is a separate round "
    ++ "trip to object storage, even when the same file is read twice."
  suggestion := "Read each remote file once into a CTE or a local temp table and reuse it."
  category := "network"

/-- Remote files that are read more than once; the second read is reported. -/
def multipleRemoteScans (sql : Text) : List Finding :=
  adviseRepeated remoteSource multipleRemoteScansAdvice (fun _ second => second) sql

def partitionedPathAdvice : Advice where
  rule := "read-parquet-no-hive"
  severity := .info
  title := "Partitioned path without hive_partitioning"
  message := "The path contains key=value directories, but hive_partitioning is not set "
    ++ "explicitly. Filters on the partition keys can only skip whole files when the partitions "
    ++ "are recognised."
  suggestion := "Pass hive_partitioning = true to the read function and filter on the partition "
    ++ "columns."
  category := "network"

/-- A path with keys and values in a text that says nothing about partitions. -/
def partitionedPath (sql : Text) : List Finding :=
  if hivePartitioning.occursIn sql then []
  else adviseFirst remotePartitionedPath partitionedPathAdvice sql

/-! ## Transfers and exports -/

def localTransferAdvice : Advice where
  rule := "md-local-remote-transfer"
  severity := .warning
  title := "Possible large local-to-cloud data transfer"
  message := "Reading local files and combining them with MotherDuck cloud tables uploads the "
    ++ "local data during the query. Large local files will bottleneck on upload speed."
  suggestion := "Upload the local data to MotherDuck first (CREATE TABLE ... AS SELECT * FROM "
    ++ "read_csv(...)) and then join cloud-to-cloud."
  category := "network"

/-- A local file that is read in a query that also names a database in the cloud. -/
def localTransfer (sql : Text) : List Finding :=
  if cloudReference.occursIn sql then adviseFirst localRead localTransferAdvice sql else []

def copyCompressionAdvice : Advice where
  rule := "copy-to-no-compression"
  severity := .info
  title := "COPY to Parquet without explicit compression"
  message := "This export relies on the default Parquet codec. zstd usually gives noticeably "
    ++ "smaller files at similar read speed, which matters for files read back over the network."
  suggestion := "Add the option explicitly: COPY ... TO 'out.parquet' (FORMAT parquet, COMPRESSION "
    ++ "zstd)."
  category := "performance"

/-- The statement from a position up to the next semicolon after another. -/
def statementFrom (sql : Text) (start stop : Nat) : Text :=
  sql.slice ⟨start, stop + ((sql.drop stop).takeWhile (· ≠ ';')).length⟩

def isParquetExport (statement : Text) : Bool :=
  match copyTarget.first? statement with
  | none => false
  | some target =>
    ".parquet".toList.isSuffixOf (Text.lower (target.groupText statement 1))
      || parquetFormat.occursIn statement

/-- The first export to a Parquet file that does not name its compression. -/
def copyCompression (sql : Text) : List Finding :=
  advisePassing copyKeyword (fun m =>
    let statement := statementFrom sql m.span.start m.span.stop
    isParquetExport statement && !compressionOption.occursIn statement) copyCompressionAdvice sql

end QueryLint.Checks
