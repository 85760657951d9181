import Tikblog.Consumer.Client
import Tikblog.Consumer.Partition
import Tikblog.Consumer.Delivery
import Tikblog.Contracts.RoundTrip
import Tikblog.Unsubscribeme.Convergence
import Tikblog.Unsubscribeme.Redelivery
import Tikblog.Unsubscribeme.Concurrency
import Tikblog.Legal.Retries
import Tikblog.Legal.Inbox
import Tikblog.Analytics.LegalRows
import Tikblog.Analytics.Writers
import Tikblog.Analytics.ExactlyOnce
import Tikblog.Analytics.Batching
import Tikblog.Analytics.FirstResults
import Tikblog.Analytics.Mismatch
import Tikblog.Analytics.Backfill
import Tikblog.Airflow.Delivery
import Tikblog.Airflow.Acknowledgement
import Tikblog.Consumer.Backoff
import Tikblog.Unsubscribeme.Resubscription
import Tikblog.Legal.Split
import Tikblog.Legal.Unreadable
import Tikblog.Legal.RejectFile
import Tikblog.Legal.RejectLines
import Tikblog.EventProducers.Generator
import Tikblog.Topics.Convergence
import Tikblog.Metabase.Idempotence
import Tikblog.Operational.Agreement
import Tikblog.Operational.DeadLetters
import Tikblog.Driver.Delivery
import Tikblog.Driver.GoldRefresh
import Tikblog.Driver.Locks
import Tikblog.Planes.Agreement
import Tikblog.Metabase.Queries
import Tikblog.Planes.LegalFiles
import Tikblog.Consumer.Progress
