/-!
# Character names from U+2C00 to U+FAFF

The names of these characters, in the encoding of `CharacterName`.
-/

namespace TextProtocol.Text.CharacterName

/-- The names of the characters from U+2C00 to U+FAFF. -/
def from2C00 : String :=
  "@2C00aG)POLITIC!dAZ~_hDZELOfZEML~-UeOTUd*f~[eSPIDERY HAkYUc!6YUS(b&Rt~^ITAe]UhSHTAPICh&ZKUTASTI A
 m!M:hMYS%~EqCAUD:hCHRIVIzG)POLITIC!WAZ~_hDZELOfZEML~-UeOTUd*f~[eSPIDERY HAkYUc!6YUS(b&Rt~^ITAe]U
 hSHTAPICh&ZKUTASTI Am!M:hMYS%~EqCAUD:hCHRIVI!7)]!]!q!m)]!]!q!7)].,tP %pn*+&R!mA %pn&s^m$K)f!m$K)f
 !7.0)f!m.0)f!7Z!E)f!mZ!E)f!7)Mf$~$Jl%,AaL&x!mV!E!p$J!7W)l!mW)llV!E,J,V%FHv$n%FHg&RLE%TPHIm$d)RCH
 m%,*+&Rs&O%g&g;M=l%,E!Q_(Jz+P%sV:k )SW)5&RrZ )SW)5&R,NALFA,BALFA*0VIDA,BVIDA*0GAMMAu$nGAMMA
 s$RDALDAu$nDALDAs$REIE,wEIEq%s%QOUs.(OU:HZATA,BZATA*0HATE,BHATE*0&m&mv$n&m&mt$RIAUDAu$nIAUDA
 s$R&QA,B&QA*0LAULAu$nLAULAs$RMI+EMI*,NI+ENI*,KSI,wKSI:HOq$nOo$RPI+EPI*,RO+EROp%s%QIMAt.(IMA*0TAU,w
 TAU:HUA+EUA*,FI+EFI*,KHI,wKHI:H$3,w$3:HOOU,wOOU:H[Q$<+h[Q$<?!)[?N)[,N[EM!XEIE+h[EM!XEIE,N[Q&QA+h[Q
 &QA,N[QNI+h[QNI,N[EM!XNI+h[EM!XNI?!OOU?NOOUzCOP!v&2%QAMPIu.(AMPIs$R*ySSE$5HEI+h*ySSE$5HEI,N(XCOP!v
 (LI+h(XCOP!v(LI?!&%?N&%,NAKHMIM!XKHEI+hAKHMIM!XKHEI,N[Q$HI+h[Q$HI?!$HI?N$HI?!HA?NHA,NL>THA+hL>THA
 ,V(XCOPT!XHEI?NHEI?!HAT?NHAT?!G!ZIA?NG!ZIA?!DJA?NDJA,N(XCOP!v SHIMA+h(XCOP!v SHIMA,N>=IAN SHIMA+h
 >=IAN SHIMA,N>=([NGI+h>=([NGI,N>=([NYI+h>=([NYI,N>=([WAU+h>=([WAUzCOP!v&&KAIdMI ROfPI ROfSTAUROS
 hTAU ROgKHI ROg.fMA)aMA*0[EMIC(LI+h[EMIC(LI,N[EM!XG!ZIA+h[EM!XG!ZIAzCOP!v:[NI !oiSPIRIT$yAS$v
 fLENISxAPIT!B!DBO>n!XKHEI+hBO>n!XKHEI@2CF9zCOPT!X>=([()j:!T ,ouIN:!T ,ow!V)L[&y;y)FqULL&AjMORPHO.P
 [&zGEORGIAN!W_-OE@2D27dYN@2D2DcAEN@2D30zTIFINAGH !DYAaBaHcGaHHfBERB!AACADEMY YAJsYAJbDaHbDaHeEYcAF
 bKd]JKkYAKHHdHdBERB!AACADEMY YAHs]JHkYAHHcAbKHe]JKHlYAQd]JQkYIbAZHeAHAGG$?YAZHm]JZHlYALbMbNd]JGN
 cNGlYAPcUbARaRcGHe]JGHlAY!AYAGHjYASaSbHcTaHcCHcTTcVbWbYbZdTAWELLEMET YAZoYAZZdEbO@2D6Fj+PLABI<.&W
 zTIFINAGH%h>!!8@2D7Fo^Z*9ERz]<<7LOAdMOAdROAdSOAcHOAeBOAdTOAdCOAdNOAcYOAe[0OAkZOAdDOAcDOAeJOAdTHOA
 eCHOAePHOAdOAdGGW>oEEb@2DA0eSS:_@2DA8dCC:_@2DB0dZZ:_@2DB8dC%zb(NbO@2DC0eQY:_@2DC8dKY:_@2DD0
 dXY:_@2DD8dGY:_@2DE0v%I>($V,[BEcVEcG*1DEcZ+7Ec~r~tfFITAeES-TEfAbIEcDJERVf~nmYATcUc:uAk?Jk<%h:u<%
 z!p+K*WSTITU)pERt]jUBSTITU)pERz%:*WSTITU%l&7%t*WSTITU%l&7!n]jUBSTITU%l&7!p]jUBSTITU%l&7,R)!PO!JI!c
 !8ERu+Q)!PO!JI!c!8ERz+Q?ZPOS!?!c!8ER+a?Z]s&7!p?Z]s&7RA&o$5!=En!n,ROMIS>p&7!p,ROMIS>p&7EDITORI!BCOR
 ONISr$ZA!$PHOSl!KK!H$ZA!$PHOSs&H!KK!H$ZA!$PHOSzHYPODIASTOLEm+QO!jOSlWNW!SS ANCORAq%mANCORAo+Q:w+K
 z!]_I;3v&<)!ROB!Zu&=M B(TCHlHYPH)C&)v$$D$d;[v!n%g$ZAPHRA)L&7!p%g$ZAPHRA)L&7$$D$d(<f!uu!n*6!EQUILL
 z!p*6!EQUILLz*==A(vr=1(vw,n=A(vr=1&7%: SIDE=bU (vx%t SIDE=bU (vy!n!]*sx>y*sy_,z!^![%D+c+i
 zS!=!H%;![+iz(~![!8n&H,ow$7&lo&g$Lk+Y$5E>!>$z%,:.m,R!_d:.m$;NE$5EMIC(9qDAGG!A!C!nGU!Sk!pGU!S
 x%,DAGGERmOP )F[8!UuWO-EM .UkH!x-EM .UnSTENO!$PH!X()w,e)aX ,HrWIGG(z$7&UuCAPITULUMj!];3n&H:.
 o!]!!-[q-9 =UDAS$K!nUP$;NuOUBLE SUS(0>p!8w&<%gKAVYKA(bKAVYKA !oz%gKAVYKA(b!_t%c!h&3!H:.sTTE$5OLIDU
 So*UDAGGERnMEDIEV!B:.o]q$y!8pUNCT$y)*VAT$y!8vC%B;P!V)L[&uRO%TPATTY!E!p)t!qo!n)t&?TI$-IAN!U&2ET
 yMEDIEV!B;Aq,ow%:)U:*%pz%t)U:*%pz^N%c$Mz^M%c$Mz*=%F>gz,n%F>gz_I;3@2E80oCJK RAD&iREPEATgCLIFFf^s$!
 m=Jg,DdTABLEfKNIFE $pjDIVIN$6kSEALd!IL $pj&aE $+jSNAKEfTHREADgSN=v$pj(UT $pi!leRAP@2E9BdCHOKEfSUN
 dMO,YDE)3fMOTHERgCIVILIANiWAT!A$pjFIREePAW $ph.R%FT!;TRUNKzCJK RAD&iCOWdDOGdJADEeBOL^ALOTHn:E
 dSPIRIT $pkBAMBOOgSILKeC~=ILKrNET $+iMESHeSHEEPfRAMdEWEdOLDdBRUSH $pjMEATdORTARg!$%T$!lTIGERf(y&mS
 h(f$piC~=EEq.R$HNp$HNeC~=PEECHfHELLs=ceC-.R&TTr.RWALKpWALK $piCITYd-.RGOLDr&V$piC-.R+teGATErM)>$p
 jRA(2BLUEeC-.RTANN!HLE=QoLEAFe>jeFLYqE)2$!jC-.REATq$AeC-.R$HSEsB!4eGHOSTfC-.R%(HeBIRDeSALTr.RWHEAT
 fYEL!!rC-.RFROGrJ-.REVENrC-.REVENrJ-.RTOOTHsC-.RTOOTHsJ-.R[ptC-.R[pt$;TLEgJ-.R$;TLEtC-.R$;TLE@2F.F
 K!ZXI RAD&i!4d&Ue!_dSLASHeE&CDg$Je!gdLIDd(md,<Se!YERe!,f%N,DiC%9fICEdTABLEf(I,DiKNIFEfPOWERfWRAP
 eSPOONf!p(I,DoHID!P^yq$wdDIVIN$6kSEALeCLIFFfPRIVATEhAGA+H;Cf^yiARTHfSCHOLARhGOa S!!LYjEVEN,>BIG
 dW<~fCHILDfROOFeINCHeS!ILfLAMEeCORPSEgSPR)-gM%S.ciRI!Vf+YKeONESELFh$;+~gDRYd+jTHREADm+QCLIFF
 m+t!hRIDEl$f%kSjSHOOTfBOWdSN)-fBRISTLEhSTEPe.oeALBERDhDOORe%keB(TCHgRAPd)dTgDIP$vgAXEdS!=Eg)RdSUN
 cAYdMO,YT!xeL&3eS$1eDE)3fWEAPONgDO )Rg%I$ZEhFURdC)9eSTEAMfW%8fFIREeCLAWeF)3ERg!]Xi%FT!;TRUNKpS*LE
 fF!ZeCOWdDOGd%vF%SDiJADEeME$Yf.7eSWEETfLIFEeUSEdFIELDfBOL^ALOTHnSICKN,bi+QT!Yl(BfSK(2)zHe:EdSPEAR
 f!RfST!4ePIRITgT$OKf!$+HCAVEeST!lfBAMBOOg+mEeSILKeJ+nNETdSHEEPfFE=QhOLDd!ldPLOWeE+nBR,_fMEAT
 dINIS!.iSELFeARRIVEgMORTARg?0EgOPPOSEgBOATeS$1P!FiCOLORf!$SSfTIGERfINSECTgBLOODfWALK ^yo(y&mShWEST
 eS+q$HNeSPEECHgVALLEYgBEANePIGd:DGERg)+LLfREDcUNd=ceBODYe&TTeBIT!.gM%B,>WALKeCITYeW!3e)zT!FUISH
 lVILLAGEhGOLDe+teGATEeM%SDfSLAVEe:OTAI=sBIRDrRA(2BLUEeWR.Xf%jeLE=QhTANN!HLE=QoLEEKeS%SDfLEAFe>j
 eFLYdEATd$AeFRAGR&Pi$HSEfB!4eT%Ve>neF!,fSACRIFICI!BW!3qCAULD$-iGHOSTf%(HeBIRDeSALTeDEEReWHEATfHEMP
 eYEL!!g*DLETg$UfEMBROIDERYkFROGe!5PODgDRUMeRATdNOSEeEVENeTOOTHf[pg$;TLEgFLUTE@2FF0u<HDE)d&c C$.AC
 (r!n$2%tn%J$2!uo!n$2$g!T%ty%J$2$g!T!uz<HDE)d&c C$.AC(rFULL SURR%SDnSURR)>*~.&f%:e$)>Pl$0%:
 y%9LAID@3000z*oPHIC.^f;;()vDIT$2!8k]3INDUS!5AL!h!l!S.E<H?~o(yS!P!8m(EZEROx~,!]=[>y=[!n~4>x:-&7=0:-
 &7!n$%>>&7!p$%>>&7POST!B!8lGE,?!8j!n;2!p;2>x>>&7=0>>&7>x;2=0;2!n(B)U&7!p(B)U&7<X.Uj&H~m~m%g~mPOST
 !B&k%jqH!ZZHOU [9%Ov<HLEVEL <mp<D<mqDE$ZT!P<mt!YER!P<mzH!ZUL,i![<mu!]![<mz>Y.Uj$7K(sREPE)2!8
 e!C?,!8w&k$))Fp!C?,&k$))Fz$7K(sREPE)2&k$0)F:dPOST!B!8t<HTELE!$PH &9FEE]y.EH!ZZHOU [9+vfH);
 x$7<HITER&WzMASU !8j$ZT AL&4&Wv<H$aI$z;~%.t%F;+.^@3041z=q(=AhAb!6IhIb!6UhUb!6EhEb!6OhOb<rKIcGIcKU
 cGUcKEcGEcKOcGOc,.ZAcSIcZIcSUcZUcSEcZEcSOcZOc:bTIcDIc!6TUiTUcDUcTEcDEcTOcDOcN;u)D)x)BHIcBIcPIcHU
 cBUcPUc+7BEc*fHOcBOcPOcM;u!6YAi%7!6YUiYUc!6YOiYOc^~!6WAiW>oEbOcNbVUc!6KAbE@3099y.G~5~$~5~$=q?~
 oVOIC!H?~v*QPH YORIv~5!];3x (=AhAb!6IhIb!6UhUb!6EhEb!6OhOb<rKIcGIcKUcGUcKEcGEcKOcGOc,.ZAcSIcZIcSU
 cZUcSEcZEcSOcZOc:bTIcDIc!6TUiTUcDUcTEcDEcTOcDOcN;u)D)x)BHIcBIcPIcHUcBUcPUc+7BEc*fHOcBOcPOcM;u!6YA
 i%7!6YUiYUc!6YOiYOc^~!6WAiW>oEbOcNbVUc!6KAbEiV>oEbOj>$l-=q%v$YGE$5)>!8z>V?~oVOIC!H?~v*QPH KOTO@310
 5vBOPOMOF=(BbPbMbFbDbTbNbLbGbKbHbJbQbXbZHcCHcSHcRbZbCbSbAbObEaHcAIcEIcAUcOUcANcENc!Zd)4cRc)QIUcV
 bNGcGNcIHcO)GqNN@3131s<5!D~a,&(8*wl~v_Kk&,-&Fk]c~+]GfAaEcYAaEdEObbYEObcObWAaEdOEcYOcUbWEObbIcYUcEU
 cYIcIi>Ug%QS!Z,vk,v-,&_Hn*&-(k-&Fl,&&,-&FjAN&Fh]T)Yr*i-&,f_Hn:=*in&,<*,&&F<**wl))f.6n:=&,f(8&,
 s&F-(k^.&,f))k[.(8:mk>3a-_Hq:==4p(8)Yk]T)YkO-YAaEdIdU-YEObcIe>kAaE@3190u<HAN)R$zL,X!P!8m<h!8m!^!8
 i$f!8h(l!8k%;!8j*=!8i$g!8l,n!8lFIRST !8k^s!8l,aD !8k!+$k!8lHEAV$C!8lEAR$k!8kM!:!8zBOPOMOF=(BUcZI
 cJIcGUcEEbNNdOObNNdIRcANNdINNdUNNdIMc.)d)[NdUNNdMcOMbNGdINNNl(4!DPbTbKbHo!DGHcLHcZYj(4!DGo!DGWcKW
 cOEcAHsCJK*jTbWGcXGcBXGdSWcHZZbGcPbZWGeSZWGeHZTbZPdPWGdZWbZZeNbHbSbPbSPcDbHZbGcSZbWZcTbGcPDbZcTN
 cSZZcWGdHXWGdZZZGfPGcQ@31F0m>V(=KUcSIbUcTOcNUc~AMUcRAbIbUbEbOy(eSIZ!H<5(k^.*&f[=:mf>^]GfKIYEOK A
 i,v AhTIKEUT AiRIEUL Ah*i AhPIE$9AhSIOS AgIEUNG Ah)) AgH$rCH AjKH$rKH AjTHIEUTH AjPHIEUPH AjH$rH A
 h)) UoKORE>l$.AC(rOJE,Y HU@3220v*oPH %Oe$wdMO,YFIREeW%8eOODeMETALf?RfSUNcTOCKfHAVEeSOCIETYhNAME
 eSPECIALhFINANCIALj&CGRATU++oLABORfRE&IS!YjC%VeSTUDYe*hV&oj!YERPR&okRES!9CEiALLI<<iFESTIVALi,C
 eSELFeREACH:d*oPH QUES&ciKIN&EGAR$wmSCHOOLgKOTOo(E,A>usW!YY >uvHIR&h>uw!K&h>uuIF&h>uv$i&h>u
 uEV!YY >uxE!,Y >uz$ZTNER.fP!Uq,g(ETW!YY %OkH);a $+dIVEs<5(k^.*&f[=:mf>^]GfKIYEOK Ai,v AhTIKEUT A
 iRIEUL Ah*i AhPIE$9AhSIOS AgIEUNG Ah)) AgH$rCH AjKH$rKH AjTHIEUTH AjPHIEUPH AjH$rH AoKORE>l$.AC(r
 %zMKOgJUEUIw<5IEUNG UwKOREAN!h!l!S$Ww,g*oPH %Oe$wdMO,YFIREeW%8eOODeMETALf?RfSUNcTOCKfHAVEeSOCIETY
 hNAMEeSPECIALhFINANCIALj&CGRATU++oLABORfSECRETg<^eFE<^gSUITABLEiEXCELLENTjPRINTfAT$w&cjITEMe,C
 eCOPYcR)NThH!Ge*?g!!cEFTe%tfMEDIC!3iRELIG%0iSTUDYe*hV&oj!YERPR&okRES!9CEiALLI<<iN!,p(ETH);)aX%G
 l!KTYa %OjIFTYu~dJANUARYhFEBRUARYi!eCHfAPRILfMAYdJUNEcLYeAUGUSTgSEPTEMBERjOCTOBERhNOVEMBERiDECEMBE
 RzS.iHGcERGcVj[m!HLIABILITY!Uw,g>V*2=CK;uS;uT;uN;u~AM;uYAbUbOc^~W>oEbOtS.iERA NAME REIWAoAPAATO
 fRUHUAfNPEAeARUeIN!FUeTIeUONdESUKUUDOhEKAAfONSUdOMUeKAIRIdRATTOeORIIhGARONdNMAeIGAcNIIfKYURII
 gGIRUDAAhKIROaGURAMUg$X(1UhWATTOjGURAMUaTONj,,UZEIROgO!4gEESUeORUNAeOPOfSAI,,UfNTIIMUhIR!FUg,ZbO
 fDAASUeESIdORUeTONdNANOdOTTOfHAITUfPAASENTOfTUfBAARERUhPIASUTORUh,,UdOeBIRUeHUARADDOgIITOgBUSSYERU
 iHURANeEKUTAARUjPESOcNIHIgHERUTUg(0SUdEZIfBEETAfPOINTOgBORUTOgHONdPONDOfHOORUcNeMAIKUROeRUdH)ORUKU
 eNSYONgI,,ONfRIaBAARUiEGAaTONfETORUhYAADOcRUeUANeRIT(1UfRAdUPIIdUBURUgEMUcNTOGENiWATTOm~dH!9 ^J
 e$w_ia-$+zS.iHPAd(,AUc!qdOVcPCcDMa&wDhCUBEDiIUcERA NAME HE&oIgSYOUWAgTAISYOUhMEIZIoCORPOR$6
 lPA AMPSh&rMU AdAcK%ecMBcGBcCALdKCALePFcNFcMU FbGdGcKGcHZcKHZdMHZdGHZdTHZdMU LdLcDLcKLcFMcNMcMU M
 dMcCMcKMcMM&wDkCM&wDkM&wDjKM&wDkMM CUBEDiCM CUBEDiM CUBEDhKM CUBEDiM %9 Sa&wDq)BKPAdMPAdGPAdRAD
 a %9 Sa&wDsPScNScMU SdScPVcNVcMU VdVcKVcMV MEGAhPWcNWcMU WdWcKWcMW MEGAhK OHMfM OHMfAMcBQcCCbD
 b %DKGiOcDBcGYcHAbPcINcKKbM CAPITALjTcLMbNbOGcXcMB&^hILcOLdPHbMbPMcRcSRbVcWBcV %DMiA %DMp~dDAY %O
 e$w_ia-%OkH);a-!4zS.iGAL@4DC0kHEXA!$M (c+,+-!w!0HEAVENpRECEPTI!0?RtDIFFICUL&h)2+,BEGINN!FzHEXA!$
 M (cYOUTHFUL FOLLYoWAIT,>&CF*LTi+,ARMYi]4TOGE;Qq!6TAM!FmTREAD!FiPEACEfST!lSTILLkFEL!!.fPk$u)2POSSE
 S.8qMODESTYhENTHUSIASMkFOLLOW!Fj+YK !c+,DECAYEDtAP%vACHi&CTEMP++nBIT!P^fo!$CEfSPLITT!PAPARTpRE$;N
 gINNOCENCEj$u)2TAM!FmM&>;rSn$u)2&IPON&E<<t+,ABYSM!BW%8nCL!F!PFIRErINFLUENCEjDUR$6iRETREAT
 h$u)2POWERl%v$uSSiDARKEN!P$m+,(qw+,FAMILYkOP?.jB:pC&clDELI!V<<jCREASEiIN+-ASEi%EAK^fm%I!P$2$XT
 oG=Q!PTOGE;QsP,_!P<]oOP&IS.8k+,WELLiREVOLU&ck+,CAULD$-iAROUS!PTH)<qKEEP:8$$L M%S.czHEXA!$M (cDEVEL
 OP&+l+,MARRY!PMAIDENtABUND<<j+,W!lERERiG!Y!N>jlJOY<>LAKEp)z$v.8k[m$6kINN!ATRUTHl!6&IPON&E<<
 tAF(r%I+D&cqBE!KE %I+D&c@A000zYI<7:0),:gEXbbWUcB:0?>:edP<B),:g:edBB:0?>*mcYT!~eNB<B),)7:e
 eHM<B),:g*mcY!2bRXbeM<B?1EXbb*mcYT!~dFIT!~c),O!2c*mcYT!~dV:0),)7EXbPc:edD<B),_g)8c*mdT<B?1)8c*m
 dDD<B?>*meNDIT!~bEXbc),)7)8c*meHN:0),UOXbcOTbXbPc)8cUTeN<BA!2c:g)8c*mdH%~!~b)8d),UO!2dO!2c)8c:e
 e%~!~bET!~d?1)8c:edG:0?1?w*mdK<B),:g?w*mdGGITbXba)8d?1?w*meMGIEXbc?>*meHX:0?1)8eNGIE!2d),UOTbXb
 c)7)8e!ybEXbc?1)8dW),UO!2dO!2c)8dZ<B?>:edC:0?>:edZZ:0),O!2c)8c_teNZ<B),UOXbcOXbPcEXbb_teS<B?>:e
 cS<B),)7)8cUT!~cYT&~eZH),:g?w:eeCH?1?w_teRRAXbb_g?w:eeNR),O!2c?w:eeSH),:g?w:eeR?>:edJ~2dQ~2
 dJJ:0:g*mcYT!~eNJ:0_g_tdY:0:gUT!~eX:0_gYT&~dY~2@A490mRAD&iQOTdLIcKITdNYIPeCYPdSSIdGGOPdEPdMIcHXIT
 eLYRdBBUTeMOPdYOcPUTdHXUOeTATdGAcZUPdCYTdDDUReBURdGGUOeNYOPeTUcOPcJJUTeZOTdPYTdHMOdYITdVURdSHYdVEP
 dZAcJOcNZUPeJJYdGOTdJJIEeWOcDUcSHUReLIEdCYbUOPdIPdHXOPeSHATeZURdSHOPe$>dZZIETfNBIEeKE@A4D0
 nLISU !D)xP!k(,T!kGAcK!k,uC!kDZAdTS%f%-&r&N,.Z)DAc&5)DXAcH)O*()Z$:d%7G)OAaEcEaUcIbObUaEbHcOE
 c&nM,:TIgNA POfMYA CYAdBOc&rJEUt+i(u&y()zVAI<7EEaNdHEEdWEEaNeP+qBHEEd+qMBEEeKPEEeMGBEEfGBEEeF+qVEE
 dTEEcHEEeDHEEcHEEfLEEd!xdDEEdNDEEeS,^HEEeZ,^HEEeC+q%adN%aeY+qKEEd.)EEfG+q$XdNEEcYEEeIaNcHIaNdWIaN
 dPIcBHIcIcMBIdKPIdMGBIeGBIdFIcVIcTIbHIdDHIbHIeLIcRIcDIcNDIdSIbHIdZIbHIdCIcJIcNJIdYIcKIcNGGIeGIcMI
 cNIbYIdAaNcNGANeHAaNdWAaNd)BB)DAcMBAdKPAaNeMGBAeGBAd*((;T!kDHAbHAe&N&Y(,NDAdS!kZ!k,s,uNJAd%7KAaN
 dNGGAeGAc%-NAbYAdOOaNdHOOd:GaNePOOdBHOOdOOdMBOOeKPOOeMGBOOfGBOOeFOOdVOOdTOOcHOOeDHOOcHOOfLOOdROO
 dDOOdNDOOeSOOcHOOeZOOcHOOeCOOdJOOdNJOOeYOOdKOOd.)OOfGOOdMOOdNOOcYOOeUaNcHUaNdWUaNdPUcBHUcUcMBUdKPU
 dMGBUeGBUdFUcVUcTUbHUdDHUbHUeLUcRUcDUcNDUdSUbHUdZUbHUdCUcJUcNJUdYUcKUc>5eGUcMUcNUbYUdOaNcNG,YHOaN
 dWOaNdPOcBHOcOcMBOdKPOdMGBOeGBOaNeFOcVOcTOb*;DHObHOeLOcROcDOcNDOdSObHOdZOb*;COcJOcNJOdYOcKOc.)OeGO
 cMOcNObYOdEaNcNGENeHEaNdWEaNd*fB+7EcMBEdKPEaNeMGBEeGBEaNeFEcVEcTEb*1DHEbHEeLEcREcDEcNDEdSEbHEdZE
 b*1CEcJEcNJEdYEcKEcNGGEaNfGEaNdMEcNEbYEcGcLENGTHENERt;;()j,onSY%<B!NNDO!N*((.SOOq:MFE)4fKE)4fT!F
 eNIIdB!ZeFAAdTAAdD!ZdO.XfK%3eTONGeDO-OeJ.Xl,5SY%<B!NNDO!N%-DO@A640vC$VIC!dZEMLYAv$nZEMLYAt$RDZELO
 u$nDZELOs$R&HDZE%$&HDZE&6*^,B*^*0DJERVu$nDJERVs$R~n%$~n&6BROAD (x%$BROAD (x,V+?YER%$+?YER,VYER&JBA
 CK YER%$YER&JBACK YER&6:uYAT%$:uYAT&6&HYU%$&HYU,V:uA%$:uAx$R+>?J%$+>?J&6BLEN)yYUS%$BLEN)yYUS,V:u+>
 ?J%$:u+>?J&6YN+EYN*,&HTSE%$&HTSE]W>)DEw.(>)DEu%s%Q>)ELw.(>)ELu%s%Q>)EMw.(>)EMu$R&q[x%$&q[x,V$4[x%$
 $4[x,V!]&q[x%$!]&q[xzC$V,[+W[x)b>($V!XVZMETf,A[f)jr*<[f)jvTHOUS!T[f)jzSLAVON!X)Jr%I>($V,[^,IEmIbYI
 cUbH~((xmKAVYKAgPAYEROKzC$V!XKAVYKAgPAYEROKh$RDWE,wDWE:HDZWE,BDZWE*0ZHWE,BZHWE*0C$>,BC$>*0DZZE,BDZ
 ZE*0T$d=9%$T$d=9&6TWE,wTWE:HTSWE,BTSWE*0TSSE,BTSSE*0T$>,BT$>*0HWE,wHWEq%s%QHWEt.(HWE*0!]O
 x$n!]O.W)t!HOy$n)t!HOz+PC$V!XH!S)nSOFT!U)b>($V,[EFc:uEzBAMUM+VAb(.UbKUc,^!xdTAEdObNYIdIb&N)BRIIbEE
 eLEEEEfMEEEEfTAAdNDAAdJAEMfMbSUUdMUc.fIdIbHEUXeEUXeKY+qETdNUAEcbJ(:fYOQdSHUdYUQcAcN$:eKEUXePEUX
 eN%adTEEePUEdWUEdP+qF+qRUcLUcMIcNIcREUXdAEdKENdNGKWAENfGAcAdS*;P(:eFUbOMd)Z&rLIcPIcLOQdKOcMBENe:F
 d$hcAcTIcKIcMObBAAeTETdKPAd$wdNTUUeSAMBAfFAAMAEgKOVUUdGHOMn.G&kKOQNDONhTUKW!YISyNJAEMLIh()jC(9
 dM&y[Pj,o@A700t+PCHIN;S&nY%)P,>!Z P!FiIN)$!Zi!Z)$!Zj%)QUf!Z QUg%)RUf!Z RUuEX)_-%_+Q&n&?+P%_+Q<l
 uMID +Q<lt%g+Q<ltEX)_-%g+Q<lt%_+Q[_%_+Q[_MID +Q[_%g+Q[_EX)_-%g+Q[_EX)_-%_[_%_(3STEM <lxMID (3STE
 M <lw%g(3STEM <lwEX)_-%g[_![*6mSLASHf=.s..:-+Ky,R$9!Ri%N!Rk;Aq&<+!&Wz+P%g&<+!&Wz(p$b!hRE%T!T_e!7_b
 $<!m_b$<!7_b)[!m_b)[!7H)4,BH)4*0TZ+ETZ*,TRESILLOx$nTRESILLO.W_>y$n_>w$R_>!E:.!m_>!E:.=lFbS
 w$RAA+EAA*,AO+EAO*,AU+EAU*,AV+EAV*,AV!E=.!mAV!E=.!7AY+EAY*,&H.z!_!m&H.z!_!7K ;gK =).0_Q.0^mK >O_Q
 K >O^mBROK$CLx$nBROK$CL.W)]H!G$M!m)]H!G$M,3+t?D,d+t?D,3.e,d.e,VOO+EOO*,P ~OP ~PP!E^c!mP!E^c!7P )SQ
 UIRREL &R!mP )SQUIRREL &R!7Q ~OQ ~PQ!E_QQ!E^mR ^Ly$nR ^Lw$RRUM ^L!mRUM ^L,VV!E_QV!E^mVY+EVY*,VISIG
 OTH!XZ!mVISIGOTH!XZ!7TH%B,q!mTH%B,q!7TH%B ~OTH%B ~PVEND,BVEND*0ET+EET*,IS+EIS*,&C,w&Cw+PUSs.aDUM
 dLUMdMUMdNUMdRUMq*_RUMy$nTUMdUM*,:1Dy$n:1Dw$R:1Fy$n:1Fw$R:1Gj%,:1G!m%,:1G!7%,Lx$n%,L.W:1Ry$n:1R
 w$RINSULAR Sy$nINSULAR Sw$R:1Ty$n:1Tz+P!! C!rUMFLEX ).vC(9f+j,O:kAL$$LOx.(AL$$LO.W%,H
 x$n)])s(_!T!jT!Q %QINO.P!_w$R+5)f!m+5)f!7.z!q!m.z!qd.u$K+B!7B!E^c!mB!E^c!7F ;gF =)]tAE!m]tAE
 x$R]tOE!m]tOEx$R]tUE!m]tUEx$RG!E=k!mG!E=k!7.0=k!m.0=k!7+5=k!m+5=k!7*+=k!m*+=k:k!E=k?Q=k!7$K$J
 l&H(IEp+RGi)]!jTl!6%sI=lQw$R%,KbTiJ!E?YtCHIdBETA,BBETA*0(xu$n(xs$RU ;gU =)[0Ay$n[0Aw$R[0Iy$n[0I
 w$R[0Uy$n[0Uw$R(XPOL;PO!m(XPOL;PO!7!Z*L(sW!m!Z*L(sW,V.z.uS)llZ!E.uD )S$HT?D!mD )S$HT?D:k )S$HT?D
 ,z )S$HT?D@A7D0!7+>:1G!m+>:1G@A7D3q!]TH%B@A7D5fWYNN,V*5 SCOTS S!m*5 SCOTS S:kIGMOI$5y.(IGMOI$5@A7F
 2z+P%sCbFbQ!7&H%FH!m&H%FH!Q EPIGRAPH!X%QIDE=bIz+P%sH %pv!6+sOE=l%,M!Q EPIGRAPH,[&HFbPk&<Mj $YGA
 h:^MzSYLOTI NAGRI+VAbIi%iDVIS$aAn!DUbEbOi%iHASANTAm!DKObHOdGObHOk%i(QAn!DCOb*;JOb*;TTObHOeDDObHO
 eTOb*;DOb*;NOcPOb*;BOb*;MOcROcLOcRROdSOcHOj%q*2EbOOnPOETRY !8?Bn%i,9HASANTA@A830z&]IND!X~.S
 z&]IND!X,G!8mPLACEHOLD!A!8qRUPEE !8kQU&PITY !8@A840z&xGS-PA !D]l~k)ZZ)DAc!6Ah*F$:c%!c*2=CQAcXA
 c*(GGAdEEj^;)ZYAt!DTT%f+)dNNAd,9YAmVOICELESS&KiD HAjASPIR%*FAt^;RAr$vFIX!H!DRAu!DC+zsS!F!N*M!8
 q!]*M!8q!8&KDe%c&KD@A880zSAURASH)_$F+km+8(F(ga:Yk)XAIc*S?cc%<k;EHAARUu.-:Yk)XAIc*S;BgC+z@A8CE
 qDANDA;8lIGIT ^J@A8E0v.GDEVANAGARI ,5!DAbUb(.&r)B&YVIj%i:3~;!U)1AC(t+ztC_E*cs%c C_E*c~;!U C_E]Sf:3
 uP,_PIKAnGAP >Uk&TETf$A>9KEk!>)aDD&$mJA%)OMh!DAYj%qAYyKAYAH LI ,5!D]l&5S!kZAc&[TAcHTAdNA
 cP!k%-(,)x&Y%7&N)ZT)O)D(;,sAbOEcIbOOj;dUEcEbUb,^Oh&nPLOPHUgCALYAa PLOPHUr!> CWIdSHYAsREJ!Z+V^!,s,u
 &[,.&Y&N%7W%!cMBAd.)Ad(,YJAeAi%q)Q*-AUcEUbAn;ENGbbRbHq*c@A95Fg>~t<5CHO>2^S[=))m*&<*(8(kl,&(8*wl_K
 k:=&,n&Fe))f;Hn*i<*,&&Fk&,-&F-TH$rTHm;Hh)Yl(8&F-&,p:m-*&f)Yl(8))-)Yl.6m=4-)Yn)Y-&Fk(8]T)Y@A980
 zJAVANESE$FPANY!ZGAjCECAKfLAYARfWIGNYANm!DAbI KAWIfaIcUbPA CEREKiNGA LELETa RASWADIr*-KAa[NfMURDA
 iGA^D&5CA^D,uNYA MURDAjJA [!Am&[TTAa [!An+)a [!AnNA MURDAiTA^DDAa [!Am&rPA^DBA^D%-%7RAa AG%3
 i&N)ZSA MURDAeAHAP(TAkcHAj!> CECAK TELUp%qTAR%3f(9GgWULUa MELIKkSUKUa $hDUTlTAL!FgDIRGA MUREkPEPET
 q;EKERETf(0GKALhCAKRAuP!ZKONh!nRER)4GANo!pRER)4GANpPADA !lAPfMADYAfLUHURfWINDUfP!Z)KhL!FSAf%3SI
 gADEGa ADEGjP&oLEHm%,PADA P&oLEH@A9CFtP!ZR!ZKEPl&S@A9DEkPADA TIR,?TUMETESnISEN-ISENx;7 %QH!:G)O%z
 dJHAdNNAdBHAp!>)$AN SAWn(p%QH!:REDUP*L$6z;7+V_M&[*(G!kJ!kDD%fNNAu_M&Su!D_M%<dD!kB!b@AA00zCHAM !D*2
 *-*%NGUEcAd%zbHAeJ!kNHUEcAbJAe*HNUEcAc+)dPAbP%!dB!kMUEcAcBBAd*F(;SSAc%!j*e%+EIcUbOEbbAIbUcUE
 n;E*FWA@AA40r!D(4KbGbNGp;E(4NGx!D(4CHcTbNbPbYbRbLbSSp;E(4MbH@AA50w&S@AA5Ck+i)1IRALg>b*UDANDA
 z;7+V]YGAcC!kJ!k*T!kHAdNAcS%!b)OFAq+P]YREDUP*L$6z;7+V]YXAcZAcRApOG=O]YOAYdQNcHMs=WAIT!c+!$6l$p
 q!DAIT!cRAp%iPAO KAR$C)ko_M)k-2b5v%QHWE &=A%3 C)O$:zTAI VIET !D%gKO,;KO.2KHOh%_KHOi%gKHHOi%_KHHO
 j%gGOg%_GOh%gNGOh%_NGOi!! COg%_COh!! CHOh%_CHOi!! SOgH!G SOh%gNYOh%_NYOi%gDO,;DO.2TO,;TO.2THO
 h%_THOi%gNO,;NO.2BO,;BO.2PO,;PO.2PHOh%_PHOi%gFOg%_FOh%gMO,;MO.2YO,;YO.2RO,;RO.2LO,;LO.2VO,;VO.2HO
 ,;HO.2Of%_On=zK!Zi;d%AIbUEbbEbOh=zK!yi;dIAcUEAcAcAUEcYbNbMi&n=zEKcNU)4fTHOdS.X@AADBn=WKONdNU)4fSAM
 dHO HOIgKOI KOIx$XTEI MAYEK !D=C%zd*T%fNNAd$:cSAk%qIIcUUcAAIcUbAUo$>IKHANiAH!Z KHUDAMlNJI
 eSY%<B!N~7y?M~7u%q*IrI(]@AB01t]<<7TTH_o09eDDH_o11dZ_o20dCCHHAb_o28fBB:_@AB30v.a>0)MmA [q-S=Gq$U!DE
 mAR)%Ei$d^cpLENIS Fh+RG!E?Y!m)]&<LAZY Sp!].,t$g(as$~?Yt+5?Yt)4!E?Yv$U!DOa ;g(IO %ps&<OEl%,OE %pg.m
 y )o-Oa %p,zTIRR$9Rw*_*+!p,<!mR !-=v%kLEq!]Ri*+?Yt!]*+?Y,z[bR(b(asBASEL$,&%mU )S:O!p,<
 u!q )S:O!p,<!mUIc%,UIj&J!n$JqCHIa!E%g!p(ak%: SERIFxX!E%g!p(amNG !n,<:o%g!p(as^Q!mY )S:O!p,<
 z(p:U!C:?[FH)4e)]&<LAZY Sp.,t&J!n$J,zA$_ YATj:uEk(IOEhUOc&<)M.:*_(x!mDZ =-=^TS =-=^%,*+.,[F%,W
 o!nT&3j!pT&3@AB70zCHEROKEE!W<CbGAc(.G[LHAb[LL<CcM*.Uc&rHNAdNAHc[LQU<CdSAba[L(,TAcDEcTEcDIcTIcDObU
 bVbLAdTL<CcS<CdW<CcYAy$XTEI MAYEK !DKOKdSAMdLAIdMITd)B&rCHILe$$dKHOUeNGOUeTHOUeWAIdY!ZeHUKdUNcI
 b&xMe!wYAfGOKdJ&$eRAId)xJILdDILdGHOUeDHOUeB&$eKOK ?pkLAI ?pkMIT ?pkPA ?pjNA ?pjTIL ?pkNGOU ?plI ?p
 p%qONAPeINAPeANAPeYENAPfS%SAPgUNAPe$>INAPhN%3p$>IKHEIiLUM IYEKiAPUN IYEK@ABF0j&S@D7B0x<5J%3>2O-YEO
 dO-IfYO-AaEcEOfU-YEOdI-IfYU-AEcOeEU-AbEObbOeI-YA-OcEcEObcO-IdYObUcId>kA-AbE@D7CBq.X>2,v-*&fCH$rCH
 n(8*wa-&,r^S&,f&Fa-(kl>^CHh.6o*&-(8(kl(k-)Ys(8*&-;Hs*&-*i-)Yl&,-,&=4n>3gORIN)Y-)Yx:=*&n*i-,vf(8,v
 q(8*ik*i-&,-&Fk))l&,-,&*&-=4n*il(8&,k&,-&F-*wl>^CHn&F-*if:=&,rS!Z&F<**wpIOS-[.>^CHh.6h)YkPAN&F-&,
 f:=&,v>3-*if)Yo))-&,f(8&,q(8))k=4-&Fe.6@F900zCJK(uP!wBILITY *oPH-#,j,j(P!a!a!a!a!aaaaaa@FA70(P!a!a
 !a!a!aaa"

end TextProtocol.Text.CharacterName
