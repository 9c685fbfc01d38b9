import QueryLint.Sql.Vocabulary.Clause

/-! Files and databases that a query reads or writes. -/
namespace QueryLint.Sql
set_option autoImplicit false
open Shape Pattern

def remoteScheme : Shape :=
  oneOf [lit "http" ++ optional (char 's'), lit "s3" ++ optional (char 'a'), lit "gs", lit "gcs",
    lit "r2", lit "az", lit "azure", lit "abfs" ++ optional (char 's'), lit "hf"]

/-- A quote and the start of the address of a remote file. -/
def remoteStart : Shape := char '\'' ++ remoteScheme ++ lit "://"

def readFunction : Shape :=
  oneOf [lit "read_" ++ many1 word, lit "parquet_scan", lit "delta_scan", lit "iceberg_scan"]

def remoteGlob : Pattern :=
  .anyCase (remoteStart ++ many0 (except "'") ++ lit "**" ++ many0 (except "'") ++ char '\'')

def remoteSource : Pattern :=
  .anyCase (either (callOf readFunction ++ quotedArgument) (edge ++ lit "from" ++ space)
    ++ remoteStart)

def localRead : Pattern :=
  .anyCase (callOf readFunction ++ quotedArgument ++ char '\''
    ++ notHere (many1 (of [.letter, .digit]) ++ lit "://"))

def cloudReference : Pattern := .anyCase (edge ++ lit "md:")

def remotePartitionedPath : Pattern :=
  .anyCase (remoteStart ++ many0 (except "'") ++ char '/' ++ many1 word ++ char '='
    ++ many0 (except "'") ++ char '\'')

def hivePartitioning : Pattern := .anyCase (keyword "hive_partitioning")

/-- The quoted target of an export, in group 1. -/
def copyTarget : Pattern :=
  .anyCase (edge ++ lit "to" ++ space ++ char '\'' ++ group 1 (many0 (except "'")) ++ char '\'')

def parquetFormat : Pattern :=
  .anyCase (edge ++ lit "format" ++ gap ++ of [.blank, .char '\'', .char '"'] ++ gap
    ++ lit "parquet" ++ edge)

def compressionOption : Pattern := .anyCase (edge ++ anyOf ["compression", "codec"] ++ edge)

end QueryLint.Sql
