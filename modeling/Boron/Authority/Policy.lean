namespace Boron.Authority

/-- How an operation is reviewed: who may call it, on which target. -/
inductive Disposition
  | accountUsername
  | accountAndDomain
  | domainOwner
  | mixedAdminOrAccount
  | mixedAdminOrAccountAndDomain
  | accountTerminalSessionOwner
  | customerSelfAccount
  | customerSessionSelfAccount
  | customerAdminOrImpersonationSessionAccount
  | accountRowOwnerRestoreJob
  | resellerSelfOrOwnedAccount
  | globalAdmin
  | adminAccountUsername
  | adminImpersonationIssue
  | adminConfirmedUpdate
  | adminImpersonationRedeem
  | rootInternal
  | rootInternalReplaceWithLoginProtocol
  | loginProtocol
  | clusterProtocol
  | updateFinalizer
  | taskListScope
  | taskItemOwner
  | controlTaskOwner
  | controlTaskReveal
  | selfPanelUserSessionOnly
  | selfPanelUserSessionWithPassword
  | currentSessionSelf
  | currentImpersonationSessionSelf
  | selfWithCurrentPasswordOrAdmin
  deriving DecidableEq

def policyByOperation : List (String × Disposition) := [
  ("tasks.list", .taskListScope), ("tasks.get", .taskItemOwner), ("tasks.retry", .taskItemOwner),
  ("tasks.cancel", .taskItemOwner), ("taskops.account.create", .globalAdmin),
  ("taskops.account.rename", .globalAdmin), ("taskops.account.terminate", .globalAdmin),
  ("taskops.domain.add", .accountUsername), ("taskops.get", .controlTaskOwner),
  ("taskops.reveal", .controlTaskReveal), ("mail.set_quota", .accountAndDomain),
  ("auth.login.begin", .loginProtocol), ("auth.login.finish", .loginProtocol),
  ("apps.install.get", .accountAndDomain), ("apps.install.trigger", .accountAndDomain),
  ("apps.list", .accountAndDomain), ("dns.raw.get", .accountAndDomain),
  ("dns.raw.preview", .accountAndDomain), ("dns.raw.template", .accountAndDomain),
  ("dns.raw.apply", .accountAndDomain), ("dns.delete_record", .accountAndDomain),
  ("dns.list_records", .accountAndDomain), ("dns.set_record", .accountAndDomain),
  ("domain.remove", .accountAndDomain), ("domain.set_php_version", .accountAndDomain),
  ("php_ini.effective", .accountAndDomain), ("domain.set_suspended", .accountAndDomain),
  ("email_routing.get", .accountAndDomain), ("email_routing.set", .accountAndDomain),
  ("errorpages.delete", .accountAndDomain), ("errorpages.get", .accountAndDomain),
  ("errorpages.list", .accountAndDomain), ("errorpages.set", .accountAndDomain),
  ("forwarding.delete", .accountAndDomain), ("forwarding.get", .accountAndDomain),
  ("forwarding.set", .accountAndDomain), ("hotlink.get", .accountAndDomain),
  ("hotlink.set", .accountAndDomain), ("imapsync.start", .accountAndDomain),
  ("ipblock.add", .accountAndDomain), ("ipblock.list", .accountAndDomain),
  ("ipblock.remove", .accountAndDomain), ("lscache.get", .accountAndDomain),
  ("lscache.purge", .accountAndDomain), ("lscache.set", .accountAndDomain),
  ("lscache.stats", .accountAndDomain), ("mail.autoresponder.delete", .accountAndDomain),
  ("mail.autoresponder.get", .accountAndDomain), ("mail.autoresponder.set", .accountAndDomain),
  ("mail.catchall.delete", .accountAndDomain), ("mail.catchall.get", .accountAndDomain),
  ("mail.catchall.set", .accountAndDomain), ("mail.change_password", .accountAndDomain),
  ("mail.create_domain", .accountAndDomain), ("mail.create_mailbox", .accountAndDomain),
  ("mail.dns.dmarc", .accountAndDomain), ("mail.dns.preview", .accountAndDomain),
  ("mail.dns.repair", .accountAndDomain), ("mail.forward.create", .accountAndDomain),
  ("mail.forward.delete", .accountAndDomain), ("mail.forward.list", .accountAndDomain),
  ("mail.list_mailboxes", .accountAndDomain), ("mail.set_mailbox_active", .accountAndDomain),
  ("mail.spamfilter.get", .accountAndDomain), ("mail.spamfilter.set", .accountAndDomain),
  ("maintenance.get", .accountAndDomain), ("maintenance.set", .accountAndDomain),
  ("nameservers.list", .accountAndDomain), ("nameservers.reset", .accountAndDomain),
  ("nameservers.set", .accountAndDomain), ("redirect.create", .accountAndDomain),
  ("redirect.delete", .accountAndDomain), ("redirect.list", .accountAndDomain),
  ("redirect.update", .accountAndDomain), ("sitestats.get", .accountAndDomain),
  ("site_health.check", .accountUsername), ("spamfilter.entries.add", .accountAndDomain),
  ("spamfilter.entries.delete", .accountAndDomain), ("spamfilter.entries.import", .accountAndDomain),
  ("spamfilter.entries.list", .accountAndDomain), ("staging.create", .accountAndDomain),
  ("staging.delete", .accountAndDomain), ("staging.get", .accountAndDomain),
  ("staging.sync", .accountAndDomain), ("wildcard.get", .accountAndDomain),
  ("wildcard.set", .accountAndDomain), ("wordpress.install.get", .accountAndDomain),
  ("wordpress.install.list", .accountAndDomain), ("wordpress.install.trigger", .accountAndDomain),
  ("wpcli.detect", .accountAndDomain), ("wpcli.get", .accountAndDomain),
  ("wpcli.list", .accountAndDomain), ("wpcli.run", .accountAndDomain),
  ("wpmanager.login", .accountAndDomain), ("wpmanager.operation", .accountAndDomain),
  ("wpmanager.refresh", .accountAndDomain), ("wpmanager.remove", .accountAndDomain),
  ("backup.restore.get", .accountRowOwnerRestoreJob), ("terminal.close", .accountTerminalSessionOwner),
  ("account.get", .accountUsername), ("account.set_php_version", .accountUsername),
  ("apps.node.create", .accountUsername), ("apps.node.delete", .accountUsername),
  ("apps.node.get", .accountUsername), ("apps.node.list", .accountUsername),
  ("apps.node.logs", .accountUsername), ("apps.node.npm_install", .accountUsername),
  ("apps.node.restart", .accountUsername), ("apps.node.start", .accountUsername),
  ("apps.node.stop", .accountUsername), ("apps.node.update", .accountUsername),
  ("apps.python.create", .accountUsername), ("apps.python.delete", .accountUsername),
  ("apps.python.get", .accountUsername), ("apps.python.list", .accountUsername),
  ("apps.python.logs", .accountUsername), ("apps.python.pip_install", .accountUsername),
  ("apps.python.restart", .accountUsername), ("apps.python.start", .accountUsername),
  ("apps.python.stop", .accountUsername), ("apps.python.update", .accountUsername),
  ("backup.job.browse", .accountUsername), ("backup.job.get", .accountUsername),
  ("backup.job.trigger", .accountUsername), ("backup.restore.list", .accountUsername),
  ("backup.restore.trigger", .accountUsername), ("bandwidth.get", .accountUsername),
  ("composer.get", .accountUsername), ("composer.list", .accountUsername),
  ("composer.run", .accountUsername), ("cron.add", .accountUsername),
  ("cron.delete", .accountUsername), ("cron.list", .accountUsername),
  ("cron.mailto.get", .accountUsername), ("cron.mailto.set", .accountUsername),
  ("cron.update", .accountUsername), ("db.change_password", .accountUsername),
  ("db.user.list", .accountUsername), ("db.user.create", .accountUsername),
  ("db.user.change_password", .accountUsername), ("db.user.rename", .accountUsername),
  ("db.user.drop", .accountUsername), ("db.user.grant", .accountUsername),
  ("db.user.revoke", .accountUsername), ("db.health", .accountUsername),
  ("db.create", .accountUsername), ("db.drop", .accountUsername), ("db.rename", .accountUsername),
  ("db.export", .accountUsername), ("db.export.cleanup", .accountUsername),
  ("db.import", .accountUsername), ("db.list", .accountUsername), ("disktree.get", .accountUsername),
  ("disktree.top_files", .accountUsername), ("domain.add", .accountUsername),
  ("htaccess.reload", .accountUsername), ("domain.list", .accountUsername),
  ("fb.open", .accountUsername), ("fileauth.disable", .accountUsername),
  ("fileauth.enable", .accountUsername), ("fileauth.list", .accountUsername),
  ("fileauth.user.add", .accountUsername), ("fileauth.user.delete", .accountUsername),
  ("fileauth.user.list", .accountUsername), ("ftp.change_password", .accountUsername),
  ("ftp.create", .accountUsername), ("ftp.delete", .accountUsername), ("ftp.list", .accountUsername),
  ("ftp.set_path", .accountUsername), ("git.repo.create", .accountUsername),
  ("git.repo.delete", .accountUsername), ("git.repo.list", .accountUsername),
  ("git.repo.push_log", .accountUsername), ("git.repo.set_deploy_target", .accountUsername),
  ("imapsync.cancel", .accountUsername), ("imapsync.list", .accountUsername),
  ("imapsync.list_folders", .accountUsername), ("imapsync.status", .accountUsername),
  ("logs.get", .accountUsername), ("logs.download", .accountUsername),
  ("maillog.delivery", .accountUsername), ("maillog.admin_stats", .globalAdmin),
  ("malware.finding.ignore", .accountUsername), ("malware.finding.quarantine", .accountUsername),
  ("malware.finding.restore", .accountUsername), ("malware.scan.get", .accountUsername),
  ("malware.scan.start", .accountUsername), ("namespace.status", .accountUsername),
  ("notifications.prefs.get", .accountUsername), ("notifications.prefs.set", .accountUsername),
  ("onboarding.get", .accountUsername), ("onboarding.set", .accountUsername),
  ("parked.add", .accountUsername), ("parked.list", .accountUsername),
  ("parked.remove", .accountUsername), ("php_ext.list", .accountUsername),
  ("php_ext.reset", .accountUsername), ("php_ext.set", .accountUsername),
  ("php_ini.get", .accountUsername), ("php_ini.reset", .accountUsername),
  ("php_ini.set", .accountUsername), ("pma.token.create", .accountUsername),
  ("processes.kill", .accountUsername), ("processes.list", .accountUsername),
  ("redis.connection_info", .accountUsername), ("redis.disable", .accountUsername),
  ("redis.enable", .accountUsername), ("redis.flush", .accountUsername),
  ("redis.set_mem_limit", .accountUsername), ("redis.status", .accountUsername),
  ("snapshot.restore.configuration", .accountUsername),
  ("snapshot.restore.databases", .accountUsername), ("snapshot.restore.list", .accountUsername),
  ("snapshot.restore.mail_routing", .accountUsername),
  ("snapshot.restore.mailboxes", .accountUsername), ("snapshot.restore.trigger", .accountUsername),
  ("snapshot.restore.undo", .accountUsername), ("snapshot.run.browse", .accountUsername),
  ("snapshot.download.queue", .accountUsername), ("snapshot.download.list", .accountUsername),
  ("snapshot.download.file", .accountUsername), ("ssl.dashboard", .accountUsername),
  ("terminal.list", .accountUsername), ("terminal.open", .accountUsername),
  ("usage.alerts.get", .accountUsername), ("usage.get", .accountUsername),
  ("usage.limits.get", .accountUsername),
  ("webmail.launch.create", .customerAdminOrImpersonationSessionAccount),
  ("account.set_password", .adminAccountUsername), ("namespace.disable", .adminAccountUsername),
  ("namespace.enable", .adminAccountUsername), ("impersonation.end", .currentImpersonationSessionSelf),
  ("auth.revoke_session", .currentSessionSelf), ("sessions.list", .selfPanelUserSessionOnly),
  ("sessions.revoke", .selfPanelUserSessionOnly),
  ("sessions.revoke_others", .selfPanelUserSessionOnly), ("sshkeys.add", .customerSelfAccount),
  ("sshkeys.delete", .customerSelfAccount), ("sshkeys.list", .customerSelfAccount),
  ("cf.enable_proxy", .domainOwner), ("cf.purge_cache", .domainOwner),
  ("cf.zone_disable", .domainOwner), ("cf.zone_enable", .domainOwner),
  ("cf.zone_status", .domainOwner), ("mail.delete_mailbox", .domainOwner),
  ("ssl.status", .domainOwner), ("account.create", .globalAdmin), ("account.list", .globalAdmin),
  ("account.rename", .globalAdmin), ("account.set_contact_email", .globalAdmin),
  ("account.set_limits", .globalAdmin), ("account.set_primary_domain", .globalAdmin),
  ("account.suspend", .globalAdmin), ("account.terminate", .globalAdmin),
  ("account.unsuspend", .globalAdmin), ("auth.create_api_token", .globalAdmin),
  ("auth.revoke_api_token", .globalAdmin), ("retention.get", .globalAdmin),
  ("retention.set", .globalAdmin), ("retention.prune", .globalAdmin),
  ("security.policy.get", .globalAdmin), ("security.policy.set", .globalAdmin),
  ("backup.destination.create", .globalAdmin), ("backup.destination.delete", .globalAdmin),
  ("backup.schedule.list", .globalAdmin), ("backup.schedule.set", .globalAdmin),
  ("bandwidth.ranking", .globalAdmin), ("branding.favicon.remove", .globalAdmin),
  ("branding.favicon.upload", .globalAdmin), ("branding.get", .globalAdmin),
  ("branding.logo.remove", .globalAdmin), ("branding.logo.upload", .globalAdmin),
  ("branding.set", .globalAdmin), ("bulk.get", .globalAdmin), ("bulk.trigger", .globalAdmin),
  ("cf.account_add", .globalAdmin), ("cf.account_delete", .globalAdmin),
  ("cf.account_list", .globalAdmin), ("cf.account_set", .globalAdmin),
  ("cf.account_test", .globalAdmin), ("cf.bulk_migrate", .globalAdmin),
  ("cf.bulk_purge", .globalAdmin), ("cf.health", .globalAdmin), ("cf.lockdown", .globalAdmin),
  ("cf.rails_status", .globalAdmin), ("cf.refresh_ranges", .globalAdmin),
  ("cf.settings_get", .globalAdmin), ("cf.settings_set", .globalAdmin),
  ("cf.zones_overview", .globalAdmin), ("directadmin_remote.inspect", .globalAdmin),
  ("cpanel_import.get", .globalAdmin), ("cpanel_import.list", .globalAdmin),
  ("cpanel_import.trigger", .globalAdmin), ("dbmonitor.bootstrap_kill_privilege", .globalAdmin),
  ("dbmonitor.connections", .globalAdmin), ("dbmonitor.db_sizes", .globalAdmin),
  ("dbmonitor.kill_privilege_status", .globalAdmin), ("dbmonitor.kill_query", .globalAdmin),
  ("dbmonitor.processlist", .globalAdmin), ("dbmonitor.slow_queries", .globalAdmin),
  ("fail2ban.bootstrap", .globalAdmin), ("fail2ban.get_jail", .globalAdmin),
  ("fail2ban.list_jails", .globalAdmin), ("fail2ban.recent_events", .globalAdmin),
  ("fail2ban.unban_all", .globalAdmin), ("fail2ban.unban_ip", .globalAdmin),
  ("fb.status", .globalAdmin), ("firewall.add", .globalAdmin), ("firewall.bypass.add", .globalAdmin),
  ("firewall.bypass.delete", .globalAdmin), ("firewall.bypass.list", .globalAdmin),
  ("firewall.delete", .globalAdmin), ("firewall.disable", .globalAdmin),
  ("firewall.enable", .globalAdmin), ("firewall.list", .globalAdmin),
  ("firewall.pending", .globalAdmin), ("firewall.confirm", .globalAdmin),
  ("firewall.rollback", .globalAdmin), ("firewall.status", .globalAdmin),
  ("firewall.preset.apply", .globalAdmin), ("firewall.temporary_ban.add", .globalAdmin),
  ("firewall.temporary_ban.delete", .globalAdmin), ("firewall.configuration.export", .globalAdmin),
  ("firewall.configuration.preview", .globalAdmin), ("firewall.configuration.import", .globalAdmin),
  ("health.get", .globalAdmin), ("health.history", .globalAdmin), ("diagnostics.run", .globalAdmin),
  ("support_bundle.create", .globalAdmin), ("support_bundle.list", .globalAdmin),
  ("support_bundle.get", .globalAdmin), ("support_bundle.consume", .globalAdmin),
  ("support_bundle.prune", .rootInternal), ("imapsync.list_active_admin", .globalAdmin),
  ("impersonation.create_token", .adminImpersonationIssue),
  ("impersonation.redeem_token", .adminImpersonationRedeem), ("ipban.add", .globalAdmin),
  ("ipban.delete", .globalAdmin), ("ipban.list", .globalAdmin), ("ipmanager.assign", .globalAdmin),
  ("ipmanager.assign_new", .globalAdmin), ("ipmanager.delete", .globalAdmin),
  ("ipmanager.import", .globalAdmin), ("ipmanager.list", .globalAdmin),
  ("ipmanager.policy.set", .globalAdmin), ("ipmanager.update", .globalAdmin),
  ("ipwhitelist.add", .globalAdmin), ("ipwhitelist.delete", .globalAdmin),
  ("ipwhitelist.list", .globalAdmin), ("mailqueue.delete", .globalAdmin),
  ("mailqueue.delete_all", .globalAdmin), ("mailqueue.flush", .globalAdmin),
  ("mailqueue.flush_all", .globalAdmin), ("mailqueue.list", .globalAdmin),
  ("maintenance.list_active", .globalAdmin), ("malware.engine.status", .globalAdmin),
  ("monitoring.check", .globalAdmin), ("monitoring.history", .globalAdmin),
  ("monitoring.settings.get", .globalAdmin), ("monitoring.settings.set", .globalAdmin),
  ("namespace.bulk_enable.get", .globalAdmin), ("namespace.bulk_enable.trigger", .globalAdmin),
  ("namespace.health_summary", .globalAdmin), ("namespace.overview", .globalAdmin),
  ("namespace.rebuild", .adminAccountUsername), ("namespace.self_test", .adminAccountUsername),
  ("stack.inventory", .globalAdmin), ("stack.check_updates", .globalAdmin),
  ("stack.preview", .globalAdmin), ("stack.start", .globalAdmin), ("stack.job.get", .globalAdmin),
  ("stack.job.cancel", .globalAdmin), ("stack.php_policy.get", .globalAdmin),
  ("stack.php_policy.set", .globalAdmin), ("stack.php_sessions.preview", .globalAdmin),
  ("stack.php_sessions.migrate", .globalAdmin), ("dbgovernor.overview", .globalAdmin),
  ("dbgovernor.statistics", .globalAdmin), ("dbgovernor.userstat.enable", .globalAdmin),
  ("dbgovernor.mode.set", .globalAdmin), ("dbgovernor.policy.save", .globalAdmin),
  ("dbgovernor.policy.reset", .globalAdmin), ("notes.add", .globalAdmin), ("notes.list", .globalAdmin),
  ("notifications.settings.get", .globalAdmin), ("notifications.settings.set", .globalAdmin),
  ("ols.admin.password.reset", .globalAdmin), ("ols.admin.password.reveal", .globalAdmin),
  ("ols.admin.reload", .globalAdmin), ("ols.admin.settings.update", .globalAdmin),
  ("ols.admin.domain_log.update", .globalAdmin), ("ols.admin.abuse.update", .globalAdmin),
  ("ols.admin.status", .globalAdmin), ("panel.config.start", .globalAdmin),
  ("panel.config.status", .globalAdmin), ("php_functions.delete", .globalAdmin),
  ("php_functions.get", .globalAdmin), ("php_functions.set", .globalAdmin),
  ("plan.apply", .globalAdmin), ("resources.overview", .globalAdmin),
  ("resources.policy.save", .globalAdmin), ("resources.policy.account", .globalAdmin),
  ("resources.policy.reset", .globalAdmin), ("resources.sample", .globalAdmin),
  ("plan.create", .globalAdmin), ("plan.delete", .globalAdmin), ("plan.get", .globalAdmin),
  ("plan.list", .globalAdmin), ("plan.update", .globalAdmin),
  ("portable.export.prepare", .globalAdmin), ("portable.export.cleanup", .globalAdmin),
  ("portable.import.get", .globalAdmin), ("portable.import.list", .globalAdmin),
  ("portable.import.trigger", .globalAdmin), ("portable.import.upload.reserve", .globalAdmin),
  ("portable.import.upload.cleanup", .globalAdmin), ("reseller.create", .globalAdmin),
  ("reseller.list", .globalAdmin), ("reseller.plan.create", .globalAdmin),
  ("reseller.plan.delete", .globalAdmin), ("reseller.plan.list", .globalAdmin),
  ("reseller.plan.update", .globalAdmin), ("reseller.update", .globalAdmin),
  ("reseller.account.move", .globalAdmin), ("admin_user.list", .globalAdmin),
  ("admin_user.create", .globalAdmin), ("admin_user.set_status", .globalAdmin),
  ("admin_user.manage", .globalAdmin), ("apps.node.admin_list", .globalAdmin),
  ("apps.python.admin_list", .globalAdmin), ("panel.config.hostname", .globalAdmin),
  ("panel.tls.status", .globalAdmin), ("panel.tls.issue", .globalAdmin),
  ("services.control", .globalAdmin), ("services.list", .globalAdmin),
  ("services.status", .globalAdmin), ("sitestats.admin_summary", .globalAdmin),
  ("sitestats.configure_geoip", .globalAdmin), ("slowquery.bootstrap", .globalAdmin),
  ("slowquery.list", .globalAdmin), ("slowquery.status", .globalAdmin),
  ("snapshot.destination.create", .globalAdmin), ("snapshot.destination.initialize", .globalAdmin),
  ("snapshot.destination.list", .globalAdmin), ("snapshot.destination.recovery_key", .globalAdmin),
  ("snapshot.destination.set", .globalAdmin), ("snapshot.destination.delete", .globalAdmin),
  ("snapshot.destination.operation.queue", .globalAdmin),
  ("snapshot.destination.operation.list", .globalAdmin), ("snapshot.policy.list", .globalAdmin),
  ("snapshot.policy.run", .globalAdmin), ("snapshot.policy.save", .globalAdmin),
  ("snapshot.run.cancel", .globalAdmin), ("snapshot.run.retry", .globalAdmin),
  ("snapshot.notifications.status", .globalAdmin),
  ("snapshot.notifications.telegram.save", .globalAdmin),
  ("snapshot.notifications.telegram.test", .globalAdmin),
  ("snapshot.notifications.deliveries", .globalAdmin), ("snapshot.config.export", .globalAdmin),
  ("snapshot.config.import", .globalAdmin), ("snapshot.destination.inventory", .globalAdmin),
  ("snapshot.catalog.accounts", .globalAdmin), ("spamfilter.global_default.get", .globalAdmin),
  ("spamfilter.global_default.set", .globalAdmin), ("ssl.admin.dashboard", .globalAdmin),
  ("ssl.service.diagnostics", .globalAdmin), ("templates.suspended_page.get", .globalAdmin),
  ("templates.suspended_page.set", .globalAdmin), ("templates.suspension_designs.apply", .globalAdmin),
  ("templates.suspension_designs.get", .globalAdmin), ("templates.welcome_email.get", .globalAdmin),
  ("templates.welcome_email.reset", .globalAdmin), ("templates.welcome_email.set", .globalAdmin),
  ("templates.welcome_page.get", .globalAdmin), ("templates.welcome_page.set", .globalAdmin),
  ("templates.welcome_page.reset", .globalAdmin), ("update.channel", .globalAdmin),
  ("update.check", .globalAdmin), ("update.database_backups", .globalAdmin),
  ("update.database_restore", .adminConfirmedUpdate), ("update.history", .globalAdmin),
  ("update.log", .globalAdmin), ("update.rollback", .adminConfirmedUpdate),
  ("update.start", .adminConfirmedUpdate), ("update.preflight", .globalAdmin),
  ("update.readiness", .updateFinalizer), ("update.finalizer.ping", .updateFinalizer),
  ("update.status", .globalAdmin), ("usage.limits.set", .globalAdmin),
  ("waf.add_custom_rule", .globalAdmin), ("waf.blocked_requests", .globalAdmin),
  ("waf.domain_policy.set", .globalAdmin), ("waf.exception.add", .globalAdmin),
  ("waf.exception.delete", .globalAdmin), ("waf.incident.unblock", .globalAdmin),
  ("waf.settings.update", .globalAdmin), ("waf.delete_custom_rule", .globalAdmin),
  ("waf.set_domain_override", .globalAdmin), ("waf.set_enabled", .globalAdmin),
  ("waf.status", .globalAdmin), ("waf.detect_trial.start", .globalAdmin),
  ("waf.detect_trial.finish", .globalAdmin), ("webhooks.create", .globalAdmin),
  ("webhooks.delete", .globalAdmin), ("webhooks.deliveries.list", .globalAdmin),
  ("webhooks.get", .globalAdmin), ("webhooks.list", .globalAdmin), ("webhooks.test", .globalAdmin),
  ("webhooks.update", .globalAdmin), ("backup.destination.list", .mixedAdminOrAccount),
  ("backup.job.list", .mixedAdminOrAccount), ("malware.finding.list", .mixedAdminOrAccount),
  ("malware.scan.list", .mixedAdminOrAccount), ("snapshot.run.list", .mixedAdminOrAccount),
  ("snapshot.run.pin", .globalAdmin), ("snapshot.drive.oauth.start", .globalAdmin),
  ("snapshot.drive.oauth.callback", .globalAdmin), ("snapshot.drive.folders", .globalAdmin),
  ("snapshot.drive.folder.set", .globalAdmin), ("snapshot.drive.revoke", .globalAdmin),
  ("wpmanager.inventory", .mixedAdminOrAccount), ("wpmanager.scan", .mixedAdminOrAccount),
  ("dns.create_zone", .mixedAdminOrAccountAndDomain), ("ssl.issue", .mixedAdminOrAccountAndDomain),
  ("ssl.issue_wildcard", .mixedAdminOrAccountAndDomain), ("dnscluster.peer.list", .globalAdmin),
  ("dnscluster.peer.create", .globalAdmin), ("dnscluster.peer.update", .globalAdmin),
  ("dnscluster.peer.delete", .globalAdmin), ("dnscluster.peer.test", .globalAdmin),
  ("dnscluster.sync_all", .globalAdmin), ("dnssetup.get", .globalAdmin),
  ("dnssetup.mode.preview", .globalAdmin), ("dnssetup.mode.set", .globalAdmin),
  ("dnssetup.zone.preview", .globalAdmin), ("dnssetup.zone.migrate", .globalAdmin),
  ("dnssetup.zone.verify", .globalAdmin), ("dnssetup.diagnostics", .globalAdmin),
  ("server_setup.status", .globalAdmin), ("server_setup.step", .globalAdmin),
  ("server_setup.records.preview", .globalAdmin), ("server_setup.step.reset", .globalAdmin),
  ("stack.tuning.preview", .globalAdmin), ("stack.tuning.apply", .globalAdmin),
  ("dnscluster.apply", .clusterProtocol), ("dnscluster.ping", .clusterProtocol),
  ("dnscluster.capabilities", .clusterProtocol),
  ("reseller.account.create", .resellerSelfOrOwnedAccount),
  ("reseller.account.lifecycle", .resellerSelfOrOwnedAccount),
  ("reseller.dashboard", .resellerSelfOrOwnedAccount), ("account.reactivate", .rootInternal),
  ("dns.delete_zone", .rootInternal), ("fb.add_source", .rootInternal),
  ("fb.bootstrap", .rootInternal), ("fb.refresh_all", .rootInternal),
  ("fb.remove_source", .rootInternal), ("health.snapshot", .rootInternal),
  ("mail.delete_domain", .rootInternal), ("maintenance.sweep_expired", .rootInternal),
  ("panel_user.create", .rootInternal), ("sitestats.refresh", .rootInternal),
  ("system.bootstrap_ols", .rootInternal), ("system.bootstrap_pma", .rootInternal),
  ("system.bootstrap_spamassassin", .rootInternal), ("system.bootstrap_webmail", .rootInternal),
  ("system.refresh_all_vhosts", .rootInternal), ("system.refresh_main_config", .rootInternal),
  ("update.cleanup", .rootInternal),
  ("auth.check_login_lockout", .rootInternalReplaceWithLoginProtocol),
  ("auth.create_session", .rootInternalReplaceWithLoginProtocol),
  ("auth.record_login_result", .rootInternalReplaceWithLoginProtocol),
  ("totp.check_login_code", .rootInternalReplaceWithLoginProtocol),
  ("totp.disable", .selfPanelUserSessionWithPassword),
  ("totp.setup", .selfPanelUserSessionWithPassword), ("totp.status", .selfPanelUserSessionOnly),
  ("totp.verify", .selfPanelUserSessionWithPassword),
  ("panel_user.set_password", .selfWithCurrentPasswordOrAdmin)]

def readOnlyOperations : List String := [
  "apps.node.admin_list", "apps.python.admin_list", "dns.raw.get", "dns.raw.preview",
  "dns.raw.template", "dns.list_records", "cf.account_list", "mail.list_mailboxes",
  "backup.job.browse", "git.repo.push_log", "disktree.top_files", "fail2ban.list_jails",
  "fail2ban.get_jail", "waf.blocked_requests", "apps.node.logs", "apps.python.logs",
  "redis.connection_info", "maillog.delivery", "maillog.admin_stats", "maintenance.list_active",
  "imapsync.list_active_admin", "sitestats.admin_summary", "account.get", "account.list",
  "admin_user.list", "apps.list", "apps.node.get", "apps.node.list", "apps.python.get",
  "apps.python.list", "backup.destination.list", "backup.job.get", "backup.job.list",
  "backup.restore.get", "backup.restore.list", "backup.schedule.list", "bandwidth.get",
  "bandwidth.ranking", "branding.get", "bulk.get", "composer.list", "cpanel_import.list", "cron.list",
  "cron.mailto.get", "db.list", "db.user.list", "disktree.get", "dnscluster.peer.list",
  "dnssetup.diagnostics", "dnssetup.get", "dnssetup.mode.preview", "dnssetup.zone.preview",
  "domain.list", "email_routing.get", "errorpages.get", "errorpages.list", "fb.status",
  "fileauth.list", "fileauth.user.list", "firewall.bypass.list", "firewall.configuration.preview",
  "firewall.list", "firewall.status", "forwarding.get", "ftp.list", "git.repo.list", "health.get",
  "health.history", "diagnostics.run", "support_bundle.list", "support_bundle.get", "hotlink.get",
  "imapsync.list", "imapsync.status", "ipban.list", "ipblock.list", "ipmanager.list",
  "ipwhitelist.list", "logs.get", "lscache.get", "lscache.stats", "mail.autoresponder.get",
  "mail.catchall.get", "mail.dns.preview", "mail.forward.list", "mail.spamfilter.get",
  "mailqueue.list", "maintenance.get", "malware.engine.status", "malware.finding.list",
  "malware.scan.get", "malware.scan.list", "monitoring.history", "monitoring.settings.get",
  "nameservers.list", "namespace.bulk_enable.get", "namespace.status", "notes.list",
  "notifications.prefs.get", "notifications.settings.get", "ols.admin.status", "onboarding.get",
  "panel.config.status", "panel.tls.status", "parked.list", "php_ext.list", "php_functions.get",
  "php_ini.get", "plan.get", "plan.list", "portable.import.list", "processes.list", "redirect.list",
  "redis.status", "retention.get", "reseller.dashboard", "reseller.list", "reseller.plan.list",
  "server_setup.records.preview", "server_setup.status", "services.list", "services.status",
  "security.policy.get", "sitestats.get", "site_health.check", "slowquery.list", "slowquery.status",
  "snapshot.destination.inventory", "snapshot.destination.list", "snapshot.destination.operation.list",
  "snapshot.download.list", "snapshot.notifications.status", "snapshot.policy.list",
  "snapshot.restore.list", "snapshot.run.browse", "snapshot.run.list", "spamfilter.entries.list",
  "spamfilter.global_default.get", "sshkeys.list", "ssl.admin.dashboard", "ssl.dashboard",
  "ssl.service.diagnostics", "ssl.status", "stack.inventory", "stack.job.get", "stack.preview",
  "stack.tuning.preview", "staging.get", "templates.suspended_page.get",
  "templates.suspension_designs.get", "templates.welcome_email.get", "templates.welcome_page.get",
  "tasks.list", "tasks.get", "taskops.get", "terminal.list", "totp.status", "update.history",
  "update.log", "update.database_backups", "update.status", "update.preflight", "update.readiness",
  "update.finalizer.ping", "usage.alerts.get", "usage.get", "usage.limits.get", "waf.status",
  "webhooks.deliveries.list", "webhooks.get", "webhooks.list", "wildcard.get",
  "wordpress.install.list", "wpcli.list", "wpmanager.inventory"]

end Boron.Authority
