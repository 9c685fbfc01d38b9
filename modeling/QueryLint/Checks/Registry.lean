import QueryLint.Checks.Aggregate
import QueryLint.Checks.Document
import QueryLint.Checks.Expression
import QueryLint.Checks.File
import QueryLint.Checks.Filter
import QueryLint.Checks.Join
import QueryLint.Checks.Ordering
import QueryLint.Checks.Statement
import QueryLint.Checks.Subquery
import QueryLint.Checks.Tree
import QueryLint.Checks.Window

/-! All checks in the order in which they run, with their names, the rules of which they report, and
what they detect. The order decides which finding is kept where two are of one rule. -/
namespace QueryLint.Checks
set_option autoImplicit false

/-- A check of the text that never fails. -/
def answering (name : String) (rules : List String) (summary : String) (run : Text → List Finding) :
    TextCheck :=
  ⟨name, rules, summary, fun sql => .ok (run sql)⟩

def treeChecks : List TreeCheck :=
  [ ⟨"check_select_star", ["select-star"],
      "A wildcard projection, or a wildcard item in the SELECT list.", selectStars⟩,
    ⟨"check_order_without_limit", ["order-without-limit"],
      "ORDER BY with no LIMIT, on a SELECT or a set operation.", ordersWithoutLimit⟩,
    ⟨"check_cross_join", ["cross-join"], "An explicit CROSS JOIN.", crossJoins⟩,
    ⟨"check_nested_subqueries", ["deeply-nested-subquery"],
      "Subqueries nested three or more levels below the outermost query.", nestedSubqueries⟩,
    ⟨"check_join_conditions", ["implicit-cross-join", "join-without-on"],
      "Comma joins without WHERE, and explicit joins without ON / USING.", joinsWithoutCondition⟩]

def textChecks : List TextCheck :=
  [ answering "check_list_aggregate" ["non-spillable-list"]
      "list() aggregate calls; the count is reported." listAggregate,
    answering "check_list_distinct" ["non-spillable-list-distinct"]
      "list(DISTINCT ...)." distinctList,
    answering "check_string_agg" ["non-spillable-string-agg"] "string_agg() calls." stringAgg,
    answering "check_ordered_aggregate" ["non-spillable-ordered-agg"]
      "Aggregates with an ORDER BY inside the call." orderInAggregate,
    answering "check_holistic_aggregate" ["non-spillable-median"]
      "median, quantile, percentile_cont/disc and mode." wholeGroup,
    answering "check_pivot" ["non-spillable-pivot"]
      "PIVOT statements (UNPIVOT alone does not collect lists)." pivot,
    answering "check_blocking_operators" ["many-blocking-operators"]
      "Combined ORDER BY, OVER ( and GROUP BY count: >= 5 warning, >= 8 error." blockingOperators,
    answering "check_window_partition" ["window-no-partition"]
      "A window specification without PARTITION BY." windowPartition,
    answering "check_unnest_column" ["unnest-large-expansion"]
      "unnest() applied to a column rather than a literal list." unnestedColumn,
    answering "check_recursive_cte" ["recursive-cte-no-limit"]
      "WITH RECURSIVE with no LIMIT, depth guard or USING KEY." recursiveQuery,
    answering "check_create_table_as" ["ctas-memory"] "CREATE TABLE ... AS SELECT." tableFromQuery,
    answering "check_distinct_star" ["distinct-star"] "SELECT DISTINCT *." distinctEverything,
    answering "check_count_distinct" ["count-distinct"]
      "COUNT(DISTINCT ...); the count is reported." distinctCount,
    answering "check_insert_select_star" ["insert-select-star"]
      "INSERT INTO ... SELECT *." insertSelectStar,
    answering "check_cte_count" ["many-ctes"]
      "Named-query definitions: > 5 info, > 10 warning." namedQueryCount,
    answering "check_list_transform" ["list-transform"]
      "Lambda-based list functions." listTransform,
    answering "check_out_of_memory_hint" ["md-duckling-size"]
      "The words 'out of memory' or 'OOM' appear in the text." outOfMemoryHint,
    answering "check_leading_wildcard_like" ["leading-wildcard-like"]
      "LIKE / ILIKE patterns that start with %." leadingWildcard,
    answering "check_function_on_filter_column" ["function-on-filter-column"]
      "A WHERE condition that wraps the column in a function before comparing it."
      functionOnFilterColumn,
    answering "check_repeated_order_limit_1" ["repeated-order-limit-1"]
      "ORDER BY col DESC LIMIT 1 used two or more times." repeatedOrderLimitOne,
    answering "check_row_number_filter" ["use-arg-max"]
      "ROW_NUMBER() OVER (... ORDER BY ...) filtered to the first one or two rows." rowNumberFilter,
    answering "check_not_in_subquery" ["not-in-subquery"] "NOT IN (SELECT ...)." notInQuery,
    answering "check_correlated_subquery" ["correlated-subquery"]
      "A subquery outside FROM whose WHERE compares against an outer qualifier." correlatedSubquery,
    answering "check_large_in_list" ["large-in-list"]
      "IN (...) with at least 50 literal values." largeInList,
    answering "check_cast_in_join_key" ["cast-in-join-key"]
      "A cast inside a JOIN ... ON condition." castInJoinKey,
    answering "check_remote_glob" ["glob-many-files"]
      "A ** recursive glob in a remote path." recursiveGlob,
    answering "check_temporal_window_join" ["temporal-join-via-window"]
      "An inequality join condition next to a ranking or window function." temporalWindowJoin,
    answering "check_chained_select_star" ["chained-select-star"]
      "SELECT * in two or more CTEs and in the final SELECT." chainedSelectStar,
    answering "check_intermediate_order_by" ["intermediate-order-by"]
      "ORDER BY at the top level of a CTE body." intermediateOrderBy,
    answering "check_self_join_neighbor" ["self-join-as-window"]
      "A table joined to itself on a +1 / interval offset." selfJoinNeighbor,
    answering "check_repeated_table_scan" ["repeated-table-scan"]
      "The same table referenced three or more times (CTE names excluded)." repeatedTableScan,
    ⟨"check_large_offset", ["large-offset-pagination"],
      "OFFSET of 10,000 rows or more.", largeOffsets⟩,
    answering "check_simple_regexp" ["regexp-for-simple-pattern"]
      "regexp_matches used for a plain prefix or suffix test." plainRegexp,
    answering "check_copy_compression" ["copy-to-no-compression"]
      "COPY ... TO a Parquet file with no COMPRESSION option." copyCompression,
    answering "check_remote_select_star" ["remote-file-select-star"]
      "SELECT * combined with a remote file source." remoteSelectStar,
    answering "check_local_remote_transfer" ["md-local-remote-transfer"]
      "A local file read in a query that also touches MotherDuck (md:)." localTransfer,
    answering "check_remote_without_filter" ["read-remote-no-filter"]
      "A remote file read in a statement that has no WHERE at all." remoteWithoutFilter,
    answering "check_multiple_remote_scans" ["multiple-remote-scans"]
      "Two or more remote file reads." multipleRemoteScans,
    answering "check_partitioned_path_without_hive" ["read-parquet-no-hive"]
      "A key=value remote path read without hive_partitioning." partitionedPath,
    answering "check_cross_database_join" ["md-cross-database-join"]
      "Three-part table names from two or more databases." crossDatabaseJoin,
    answering "check_union_without_all" ["union-without-all"]
      "UNION not followed by ALL." plainUnion,
    answering "check_window_filtered_in_where" ["window-without-qualify"]
      "A ranking window result filtered in WHERE instead of QUALIFY." windowFilteredInWhere,
    answering "check_verbose_group_by" ["group-by-verbose"]
      "GROUP BY listing four or more columns." longGroupBy,
    answering "check_left_join_on_true" ["many-left-join-on-true"]
      "Five or more LEFT JOIN ... ON TRUE." joinsOnTrue,
    answering "check_or_chain" ["or-chain-instead-of-in"]
      "Four or more col = literal tests on the same column joined by OR." orChain,
    answering "check_between_timestamp" ["between-timestamp"]
      "BETWEEN on a temporal-looking column or value." betweenTimestamp,
    answering "check_conditional_aggregate" ["case-when-instead-of-filter"]
      "SUM(CASE WHEN ...) and similar." caseInAggregate,
    answering "check_like_prefix" ["like-prefix-use-starts-with"]
      "LIKE 'prefix%' with no other wildcard." prefixPattern,
    answering "check_large_case_chain" ["large-case-chain"]
      "A single CASE expression with ten or more WHEN branches." largeCaseChain,
    answering "check_group_by_ordinal" ["group-by-ordinal"] "GROUP BY 1, 2, ..." groupByPosition,
    answering "check_string_concat" ["string-concat-null"] "The || operator." stringConcat,
    answering "check_count_column" ["count-col-vs-count-star"]
      "count(col) rather than count(*)." columnCount,
    answering "check_excessive_casts" ["excessive-casts"]
      "Eight or more casts, counting both :: and CAST()." manyCasts,
    answering "check_json_extraction" ["heavy-json-extraction", "moderate-json-extraction"]
      "-> / ->> path extractions: >= 20 warning, 8 to 19 info." jsonExtraction,
    answering "check_json_each" ["json-each-expansion"]
      "json_each() / json_tree() row expansion." jsonEach,
    answering "check_json_array_wildcard" ["json-array-extract"]
      "JSON paths with a [*] wildcard." jsonWildcard,
    answering "check_mixed_timestamp_types" ["timestamp-vs-timestamptz"]
      "Both TIMESTAMPTZ and plain TIMESTAMP appear." mixedTimestamps]

def treeRules : List String := treeChecks.flatMap TreeCheck.rules

def textRules : List String := textChecks.flatMap TextCheck.rules

end QueryLint.Checks
